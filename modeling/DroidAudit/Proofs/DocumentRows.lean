import DroidAudit.Proofs.ResourceFiles
import DroidAudit.Proofs.RewrittenDocument
import DroidAudit.Proofs.TextRows

/-! A document as rows, one for each element in document order. A text that is stored in a document
is stored in its rows, and the document stays sound. -/
namespace DroidAudit.Xml

/-! Rows of documents. -/

def rowOf (depth : Nat) (tail : String) (e : Element) : Row where
  depth := depth
  name := (e.name.space, e.name.part)
  attributes := e.attributes.map fun a => (a.key, a.value)
  text := e.text.getD ""
  tail := tail

mutual
def rowsFrom (depth : Nat) (tail : String) : Element → List Row
  | .mk name attributes text children =>
    rowOf depth tail (.mk name attributes text children) :: rowsBelow (depth + 1) children

def rowsBelow (depth : Nat) : List (Element × String) → List Row
  | [] => []
  | (e, tail) :: rest => rowsFrom depth tail e ++ rowsBelow depth rest
end

def rows (root : Element) : List Row := rowsFrom 0 "" root

theorem key?_rowOf (depth : Nat) (tail : String) (e : Element) :
    (rowOf (depth + 1) tail e).key? = e.textName? := by
  have hstring : (rowOf (depth + 1) tail e).isString = e.name.isPlain "string" := by
    rw [Bool.eq_iff_iff]
    simp [Row.isString, rowOf, Name.isPlain]
  have hname : ∀ a : Attribute, (a.key == ("", "name")) = a.name.isPlain "name" := by
    intro a
    rw [Bool.eq_iff_iff]
    simp [Attribute.key, Name.isPlain]
  rw [Row.key?, hstring, Element.textName?, Element.plainAttribute?]
  simp only [rowOf, List.find?_map, Function.comp_def, hname, Option.map_map]

mutual
theorem map_key?_rowsFrom (depth : Nat) (tail : String) (e : Element) :
    (rowsFrom (depth + 1) tail e).map (·.key?) = e.all.map (·.textName?) := by
  cases e with
  | mk name attributes text children =>
    rw [rowsFrom, Element.all, List.map_cons, List.map_cons, key?_rowOf,
      map_key?_rowsBelow (depth + 1) children]

theorem map_key?_rowsBelow (depth : Nat) (children : List (Element × String)) :
    (rowsBelow (depth + 1) children).map (·.key?) =
      (Element.allOfChildren children).map (·.textName?) := by
  match children with
  | [] => rfl
  | (e, tail) :: rest =>
    rw [rowsBelow, Element.allOfChildren, List.map_append, List.map_append,
      map_key?_rowsFrom depth tail e, map_key?_rowsBelow depth rest]
end

theorem rowsBelow_append (depth : Nat) (children more : List (Element × String)) :
    rowsBelow depth (children ++ more) = rowsBelow depth children ++ rowsBelow depth more := by
  induction children with
  | nil => rfl
  | cons c rest ih => rw [List.cons_append, rowsBelow, ih, rowsBelow, List.append_assoc]

variable {e : Element} {key text : String} {w : Way}

theorem mem_map_key?_of_find? {place : Query.Place} {f : Query.Found}
    (h : (Query.below place e).find? (fun f => f.2.textName? == some key) = some f) (depth : Nat) :
    some key ∈ (rowsBelow (depth + 1) e.children).map (·.key?) := by
  have hname : f.2.textName? = some key := by simpa using List.find?_some h
  have hmem : f.2 ∈ e.descendants := by
    rw [← Query.map_below place]
    exact List.mem_map_of_mem (List.mem_of_find?_eq_some h)
  rw [map_key?_rowsBelow]
  exact List.mem_map.mpr ⟨f.2, hmem, hname⟩

theorem not_mem_map_key?_of_find? {place : Query.Place}
    (h : (Query.below place e).find? (fun f => f.2.textName? == some key) = none) (depth : Nat) :
    some key ∉ (rowsBelow (depth + 1) e.children).map (·.key?) := by
  rw [map_key?_rowsBelow]
  intro hmem
  obtain ⟨d, hd, hname⟩ := List.mem_map.mp hmem
  have hbelow : d ∈ (Query.below place e).map (·.2) := by
    rw [Query.map_below]
    exact hd
  obtain ⟨f, hf, rfl⟩ := List.mem_map.mp hbelow
  exact List.find?_eq_none.mp h f hf (by simp [hname])

theorem rowsFrom_withText (depth : Nat) (tail : String) (e : Element) (text : String) :
    rowsFrom depth tail (e.withText (some text)) =
      { rowOf depth tail e with text } :: rowsBelow (depth + 1) e.children := by
  cases e
  rfl

theorem rowsFrom_eq (depth : Nat) (tail : String) (e : Element) :
    rowsFrom depth tail e = rowOf depth tail e :: rowsBelow (depth + 1) e.children := by
  cases e
  rfl

mutual
/-- A text that is changed where the search for it ends is stored in the first row of its name. The
way there goes through the child that holds it. The rows in front of that child and behind it stay
as they are. -/
theorem rowsFrom_changeAt {key : String} (text : String) {place : Query.Place} (e : Element)
    {f : Query.Found}
    (h : (Query.below place e).find? (fun f => f.2.textName? == some key) = some f) :
    ∃ rest, f.1 = place ++ rest ∧ ∀ depth tail,
      rowsFrom depth tail (e.changeAt (·.withText (some text)) rest) =
        rowOf depth tail e :: put key text (rowsBelow (depth + 1) e.children) := by
  cases e with
  | mk name attributes old children =>
    rw [Query.below] at h
    obtain ⟨j, rest, hplace, hrows⟩ := rowsBelow_changeAt text children h
    rw [Nat.zero_add] at hplace
    refine ⟨j :: rest, hplace, fun depth tail => ?_⟩
    rw [Element.changeAt, rowsFrom]
    exact congrArg _ (hrows depth)

theorem rowsBelow_changeAt {key : String} (text : String) {place : Query.Place} {i : Nat}
    (children : List (Element × String)) {f : Query.Found}
    (h : (Query.belowFrom place i children).find? (fun f => f.2.textName? == some key) = some f) :
    ∃ j rest, f.1 = place ++ (i + j) :: rest ∧ ∀ depth,
      rowsBelow (depth + 1) (children.modify j fun c =>
        (c.1.changeAt (·.withText (some text)) rest, c.2)) =
      put key text (rowsBelow (depth + 1) children) := by
  match children with
  | [] => simp [Query.belowFrom] at h
  | (e, tail) :: children =>
    rw [Query.belowFrom, List.cons_append, List.find?_cons, List.find?_append] at h
    by_cases hkey : e.textName? = some key
    · -- the child itself
      rw [hkey] at h
      simp only [beq_self_eq_true, Option.some.injEq] at h
      refine ⟨0, [], by rw [← h]; rfl, fun depth => ?_⟩
      have hrow : (rowOf (depth + 1) tail e).key? = some key := by rw [key?_rowOf, hkey]
      rw [List.modify_zero_cons, rowsBelow, rowsBelow, Element.changeAt, rowsFrom_withText,
        rowsFrom_eq, List.cons_append, List.cons_append, put_cons_of_eq hrow]
    · have hrow (depth : Nat) : (rowOf (depth + 1) tail e).key? ≠ some key := by
        rwa [key?_rowOf]
      rw [beq_eq_false_iff_ne.mpr hkey] at h
      cases hbelow : (Query.below (place ++ [i]) e).find? (fun f => f.2.textName? == some key) with
      | some found =>
        -- below the child
        obtain ⟨rest, hplace, hrows⟩ := rowsFrom_changeAt text e hbelow
        rw [hbelow] at h
        cases h
        refine ⟨0, rest, by simpa using hplace, fun depth => ?_⟩
        have hmem := mem_map_key?_of_find? hbelow (depth + 1)
        rw [List.modify_zero_cons, rowsBelow, rowsBelow, hrows, rowsFrom_eq, List.cons_append,
          List.cons_append, put_cons_of_ne (hrow depth), put_append_of_mem hmem]
      | none =>
        -- in one of the children that follow
        rw [hbelow] at h
        obtain ⟨j, rest, hplace, hrows⟩ := rowsBelow_changeAt text children h
        refine ⟨j + 1, rest, ?_, fun depth => ?_⟩
        · rw [hplace, Nat.add_assoc, Nat.add_comm 1 j]
        · have hmem := not_mem_map_key?_of_find? hbelow (depth + 1)
          rw [List.modify_succ_cons, rowsBelow, rowsBelow, hrows, rowsFrom_eq, List.cons_append,
            List.cons_append, put_cons_of_ne (hrow depth), put_append_of_not_mem hmem]
end

theorem rows_addChild (root : Element) (key text : String) :
    rows (root.addChild ((named "string" key .escaped).withText (some text))) =
      rows root ++ [.new key text] := by
  rw [rows, rows, rowsFrom_eq, rowsFrom_eq, Element.addChild, List.cons_append]
  exact congrArg _ (rowsBelow_append 1 root.children _)

def stored (key text : String) (root : Element) : Element :=
  match (Query.below [] root).find? fun f => f.2.textName? == some key with
  | some f => root.changeAt (·.withText (some text)) f.1
  | none => root.addChild ((named "string" key .escaped).withText (some text))

theorem rows_stored (key text : String) (root : Element) :
    rows (stored key text root) = put key text (rows root) := by
  have hroot : (rowOf 0 "" root).key? ≠ some key := by simp [Row.key?, Row.isString, rowOf]
  unfold stored
  split
  · rename_i f hfind
    obtain ⟨rest, hplace, hrows⟩ := rowsFrom_changeAt text root hfind
    rw [hplace, List.nil_append, rows, rows, hrows, rowsFrom_eq, put_cons_of_ne hroot]
  · rename_i hfind
    have hnone := not_mem_map_key?_of_find? hfind 0
    rw [rows_addChild, rows, rowsFrom_eq, List.cons_append, put_cons_of_ne hroot]
    have happend : put key text (rowsBelow 1 root.children ++ []) =
        rowsBelow 1 root.children ++ put key text [] := put_append_of_not_mem hnone
    rw [List.append_nil] at happend
    rw [happend]
    rfl

mutual
theorem rowsFrom_relabelled (labels : Labels) (depth : Nat) (tail : String) (e : Element) :
    rowsFrom depth tail (e.relabelled labels) = rowsFrom depth tail e := by
  cases e with
  | mk name attributes text children =>
    have hrow : rowOf depth tail ((Element.mk name attributes text children).relabelled labels) =
        rowOf depth tail (.mk name attributes text children) := by
      simp [Element.relabelled, rowOf, Element.name, Element.attributes, Element.text,
        Name.relabelled, Attribute.key, Attribute.relabelled]
    rw [rowsFrom_eq, hrow, rowsFrom, Element.relabelled]
    exact congrArg _ (rowsBelow_relabelled labels (depth + 1) children)

theorem rowsBelow_relabelled (labels : Labels) (depth : Nat) (children : List (Element × String)) :
    rowsBelow depth (relabelledChildren labels children) = rowsBelow depth children := by
  match children with
  | [] => rfl
  | (e, tail) :: rest =>
    rw [relabelledChildren, rowsBelow, rowsBelow, rowsFrom_relabelled labels depth tail e,
      rowsBelow_relabelled labels depth rest]
end

/-! What the rows tell about a document. -/

theorem keepsTexts_mk {name : Name} {attributes : List Attribute} {text : Option String}
    {children : List (Element × String)} :
    (Element.mk name attributes text children).KeepsTexts ↔
      (∀ t, text = some t → IsText t) ∧ ∀ c ∈ children, c.1.KeepsTexts ∧ IsText c.2 := by
  constructor
  · intro h
    exact ⟨(h _ (Element.self_mem_all _)).1, fun c hc => h.child hc⟩
  · rintro ⟨htext, hchildren⟩ d hd
    rw [Element.all, Element.allOfChildren_eq] at hd
    rcases List.mem_cons.mp hd with rfl | hd
    · exact ⟨htext, fun c hc => (hchildren c hc).2⟩
    · obtain ⟨c, hc, hd⟩ := List.mem_flatMap.mp hd
      exact (hchildren c hc).1 d hd

theorem isText_empty : IsText "" := ⟨[], rfl, by simp⟩

theorem isText_getD (text : Option String) :
    IsText (text.getD "") ↔ ∀ t, text = some t → IsText t := by
  cases text with
  | none => simp [isText_empty]
  | some t => simp

mutual
theorem keepsTexts_iff (depth : Nat) (tail : String) (e : Element) :
    (∀ row ∈ rowsFrom depth tail e, IsText row.text ∧ IsText row.tail) ↔
      IsText tail ∧ e.KeepsTexts := by
  cases e with
  | mk name attributes text children =>
    rw [rowsFrom, List.forall_mem_cons, keepsTextsBelow_iff (depth + 1) children, keepsTexts_mk,
      ← isText_getD]
    constructor
    · rintro ⟨⟨htext, htail⟩, hchildren⟩
      exact ⟨htail, htext, hchildren⟩
    · rintro ⟨htail, htext, hchildren⟩
      exact ⟨⟨htext, htail⟩, hchildren⟩

theorem keepsTextsBelow_iff (depth : Nat) (children : List (Element × String)) :
    (∀ row ∈ rowsBelow depth children, IsText row.text ∧ IsText row.tail) ↔
      ∀ c ∈ children, c.1.KeepsTexts ∧ IsText c.2 := by
  match children with
  | [] => simp [rowsBelow]
  | (e, tail) :: rest =>
    rw [rowsBelow, List.forall_mem_append, List.forall_mem_cons, keepsTexts_iff depth tail e,
      keepsTextsBelow_iff depth rest, and_comm (a := IsText tail)]
end

def Row.HasSimpleNames (row : Row) : Prop :=
  isSimpleName row.name.2 = true ∧ ∀ a ∈ row.attributes, isSimpleName a.1.2 = true

instance (row : Row) : Decidable row.HasSimpleNames := inferInstanceAs (Decidable (_ ∧ _))

mutual
theorem hasSimpleNames_iff (depth : Nat) (tail : String) (e : Element) :
    (∀ row ∈ rowsFrom depth tail e, row.HasSimpleNames) ↔ e.HasSimpleNames := by
  cases e with
  | mk name attributes text children =>
    rw [rowsFrom, List.forall_mem_cons, hasSimpleNamesBelow_iff (depth + 1) children,
      hasSimpleNames_mk]
    simp only [Row.HasSimpleNames, rowOf, Element.name, Element.attributes, List.forall_mem_map,
      Attribute.key]

theorem hasSimpleNamesBelow_iff (depth : Nat) (children : List (Element × String)) :
    (∀ row ∈ rowsBelow depth children, row.HasSimpleNames) ↔
      ∀ c ∈ children, c.1.HasSimpleNames := by
  match children with
  | [] => simp [rowsBelow]
  | (e, tail) :: rest =>
    rw [rowsBelow, List.forall_mem_append, List.forall_mem_cons, hasSimpleNames_iff depth tail e,
      hasSimpleNamesBelow_iff depth rest]
end

mutual
theorem height_le_iff (depth : Nat) (tail : String) (n : Nat) (e : Element) :
    (∀ row ∈ rowsFrom depth tail e, row.depth < depth + n) ↔ e.height ≤ n := by
  cases e with
  | mk name attributes text children =>
    have hdeeper (m : Nat) : depth + 1 + m = depth + (m + 1) := by omega
    rw [rowsFrom, List.forall_mem_cons, Element.height]
    cases n with
    | zero => simp [rowOf]
    | succ n =>
      rw [← hdeeper, heightBelow_rows_iff (depth + 1) n children]
      simp only [rowOf]
      omega

theorem heightBelow_rows_iff (depth n : Nat) (children : List (Element × String)) :
    (∀ row ∈ rowsBelow depth children, row.depth < depth + n) ↔
      Element.heightBelow children ≤ n := by
  match children with
  | [] => simp [rowsBelow, Element.heightBelow]
  | (e, tail) :: rest =>
    rw [rowsBelow, List.forall_mem_append, height_le_iff depth tail n e,
      heightBelow_rows_iff depth n rest, Element.heightBelow, Nat.max_le]
end

theorem keepsTexts_of_rows {d : Element} (h : rows d = rows e) (he : e.KeepsTexts) :
    d.KeepsTexts := by
  have hrows := (keepsTexts_iff 0 "" e).mpr ⟨isText_empty, he⟩
  rw [← rows, ← h] at hrows
  exact ((keepsTexts_iff 0 "" d).mp hrows).2

theorem hasSimpleNames_of_rows {d : Element} (h : rows d = rows e) (he : e.HasSimpleNames) :
    d.HasSimpleNames := by
  have hrows := (hasSimpleNames_iff 0 "" e).mpr he
  rw [← rows, ← h] at hrows
  exact (hasSimpleNames_iff 0 "" d).mp hrows

theorem height_of_rows {d : Element} {n : Nat} (h : rows d = rows e) (he : e.height ≤ n) :
    d.height ≤ n := by
  have hrows := (height_le_iff 0 "" n e).mpr he
  rw [← rows, ← h] at hrows
  exact (height_le_iff 0 "" n d).mp hrows

/-! Sound documents. -/

theorem forall_mem_modify {α : Type} {P : α → Prop} {change : α → α} {as : List α}
    (h : ∀ a ∈ as, P a) (hchange : ∀ a ∈ as, P (change a)) (i : Nat) :
    ∀ a ∈ as.modify i change, P a := by
  intro a ha
  obtain ⟨j, hj, rfl⟩ := List.mem_iff_getElem.mp ha
  rw [List.length_modify] at hj
  rw [List.getElem_modify]
  split
  · exact hchange _ (List.getElem_mem hj)
  · exact h _ (List.getElem_mem hj)

theorem Element.Sound.changeAt_withText (h : e.Sound w)
    (htext : IsLegalText text) (place : List Nat) :
    (e.changeAt (·.withText (some text)) place).Sound w := by
  induction place generalizing e with
  | nil =>
    cases h with
    | mk hname hattributes hnodup _ hchildren htails =>
      exact .mk hname hattributes hnodup htext hchildren htails
  | cons i place ih =>
    cases h with
    | mk hname hattributes hnodup hlegal hchildren htails =>
      rw [Element.changeAt]
      refine .mk hname hattributes hnodup hlegal ?_ ?_
      · exact forall_mem_modify hchildren (fun c hc => ih (hchildren c hc)) i
      · refine forall_mem_modify (P := fun c : Element × String => IsLegalText c.2) htails ?_ i
        exact htails

theorem Element.Sound.addChild {child : Element} (h : e.Sound w) (hchild : child.Sound w) :
    (e.addChild child).Sound w := by
  cases h with
  | mk hname hattributes hnodup hlegal hchildren htails =>
    refine .mk hname hattributes hnodup hlegal ?_ ?_
    · exact List.forall_mem_append.mpr ⟨hchildren, List.forall_mem_singleton.mpr hchild⟩
    · exact List.forall_mem_append.mpr
        ⟨htails, List.forall_mem_singleton.mpr isText_empty.isLegalText⟩

theorem sound_named (hkey : IsLegalText key) (htext : IsLegalText text) :
    ((named "string" key .escaped).withText (some text)).Sound w := by
  have hmk : (named "string" key .escaped).withText (some text) =
      .mk (.plain "string") [⟨.plain "name", key, .escaped⟩] (some text) [] := rfl
  have hname : IsPart "name" := ⟨by decide, List.all_eq_true.mp rfl⟩
  have htag : IsPart "string" := ⟨by decide, List.all_eq_true.mp rfl⟩
  have hdeclaring : "name" ≠ "xmlns" := by decide
  rw [hmk]
  refine .mk ⟨htag, .inl rfl⟩ (List.forall_mem_singleton.mpr ?_) (by simp) htext (by simp) (by simp)
  exact ⟨⟨hname, .inl rfl⟩, fun _ => hdeclaring, rfl, hkey⟩

theorem stored_sound {root : Element} (h : root.Sound w)
    (hkey : IsLegalText key) (htext : IsLegalText text) : (stored key text root).Sound w := by
  unfold stored
  split
  · exact h.changeAt_withText htext _
  · exact h.addChild (sound_named hkey htext)

theorem stored_keepsTexts {root : Element} (h : root.KeepsTexts) (key : String)
    (htext : IsText text) : (stored key text root).KeepsTexts := by
  have hrows := (keepsTexts_iff 0 "" root).mpr ⟨isText_empty, h⟩
  have hput := forall_put key text hrows ⟨htext, isText_empty⟩ fun row hrow => ⟨htext, hrow.2⟩
  refine ((keepsTexts_iff 0 "" _).mp ?_).2
  rwa [← rows, rows_stored]

/-- Storing a text brings no names with other characters, and takes none away. -/
theorem stored_hasSimpleNames (key text : String) (root : Element) :
    (stored key text root).HasSimpleNames ↔ root.HasSimpleNames := by
  have hnew : (Row.new key text).HasSimpleNames := by
    have hname : isSimpleName "name" = true := by decide
    have htag : isSimpleName "string" = true := by decide
    exact ⟨htag, List.forall_mem_singleton.mpr hname⟩
  rw [← hasSimpleNames_iff 0 "" (stored key text root), ← hasSimpleNames_iff 0 "" root, ← rows,
    ← rows, rows_stored]
  exact ⟨fun h => forall_of_put h fun _ hrow => hrow,
    fun h => forall_put key text h hnew fun _ hrow => hrow⟩

/-- A text is stored next to the top. -/
theorem stored_height (key text : String) (root : Element) :
    (stored key text root).height ≤ maxHeight ↔ root.height ≤ maxHeight := by
  have hnew : (Row.new key text).depth < 0 + maxHeight := Nat.succ_lt_succ (Nat.zero_lt_succ 988)
  rw [← height_le_iff 0 "" maxHeight (stored key text root), ← height_le_iff 0 "" maxHeight root,
    ← rows, ← rows, rows_stored]
  exact ⟨fun h => forall_of_put h fun _ hrow => hrow,
    fun h => forall_put key text h hnew fun _ hrow => hrow⟩

end DroidAudit.Xml
