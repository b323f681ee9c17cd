import DroidAudit.Proofs.WrittenText

/-! The text of a document. Where no text is missing, it is spelled out with the labels of its
namespaces. Elements are kept if all of their text holds only characters that a document keeps, and
no name needs a label. -/
namespace DroidAudit.Xml

def isSimpleName (s : String) : Bool :=
  s.toList.head?.any opensName && s.toList.all fun c => continuesName c && c.toNat < 128

def Name.Kept (n : Name) : Prop := n = .plain n.part ∧ isSimpleName n.part = true

structure Attribute.Kept (a : Attribute) : Prop where
  name : a.name.Kept
  notDeclaring : a.name.part ≠ "xmlns"
  form : a.form = .escaped
  value : IsText a.value

inductive Element.Kept : Element → Prop
  | mk {name : Name} {attributes : List Attribute} {text : String}
      {children : List (Element × String)} :
      name.Kept → (∀ a ∈ attributes, a.Kept) → (attributes.map (·.name.part)).Nodup →
      IsText text → (∀ c ∈ children, c.1.Kept) → (∀ c ∈ children, IsText c.2) →
      Element.Kept (.mk name attributes (some text) children)

/-! The characters of a document. -/

def textChars (s : String) : List Char := (writtenText s).toList

def attributeChars (a : Attribute) : List Char :=
  ' ' :: a.name.part.toList ++ '=' :: '"' :: (writtenValue a.value).toList ++ ['"']

mutual
def elementChars : Element → List Char
  | .mk name attributes text children =>
    '<' :: name.part.toList ++ attributes.flatMap attributeChars ++
      if text == some "" && children.isEmpty then " />".toList
      else
        '>' :: textChars (text.getD "") ++ childrenChars children ++
          ('<' :: '/' :: name.part.toList ++ ['>'])

def childrenChars : List (Element × String) → List Char
  | [] => []
  | (e, tail) :: rest => elementChars e ++ textChars tail ++ childrenChars rest
end

variable {s : String} {e root : Element} {ds : List Char}

theorem writtenPlain_eq (h : ∀ c ∈ s.toList, Text.isReserved c = false) :
    (writtenPlain s).toList = s.toList.flatMap fun c => writtenPoint (fun c => [c]) c.toNat := by
  have hpoints : Text.points s.toList = s.toList.map Char.toNat := by
    rw [← Text.points_ofChars, Text.ofChars_of_plain h]
  rw [writtenPlain, written, hpoints, List.flatMap_map, String.toList_ofList]

theorem writtenPlain_of_low (h : ∀ c ∈ s.toList, c.toNat < 128) : writtenPlain s = s := by
  rw [← String.toList_inj, writtenPlain_eq fun c hc => Text.isReserved_of_low (h c hc)]
  generalize s.toList = cs at h ⊢
  induction cs with
  | nil => rfl
  | cons c cs ih =>
    rw [List.flatMap_cons, ih fun d hd => h d (by simp [hd])]
    simp [writtenPoint, h c (by simp)]

theorem isSimpleName_chars (h : isSimpleName s = true) :
    ∀ c ∈ s.toList, continuesName c = true ∧ c.toNat < 128 := by
  simp only [isSimpleName, Bool.and_eq_true, List.all_eq_true, decide_eq_true_eq] at h
  exact h.2

theorem writtenPlain_of_isSimpleName (h : isSimpleName s = true) :
    writtenPlain s = s := writtenPlain_of_low fun c hc => (isSimpleName_chars h c hc).2

theorem Element.allOfChildren_eq (children : List (Element × String)) :
    Element.allOfChildren children = children.flatMap fun c => c.1.all := by
  induction children with
  | nil => rfl
  | cons c rest ih => rw [Element.allOfChildren, ih, List.flatMap_cons]

theorem Element.Kept.of_mem_all {d : Element} (h : e.Kept) (hd : d ∈ e.all) : d.Kept := by
  induction h with
  | mk hname hattributes hnodup htext hchildren htails ih =>
    rw [Element.all, Element.allOfChildren_eq] at hd
    rcases List.mem_cons.mp hd with rfl | hd
    · exact .mk hname hattributes hnodup htext hchildren htails
    · obtain ⟨c, hc, hd⟩ := List.mem_flatMap.mp hd
      exact ih c hc hd

theorem labelsOf_of_kept (h : root.Kept) : labelsOf root = [] := by
  have hspaces : ∀ e ∈ root.all, ∀ n ∈ e.name :: e.attributes.map (·.name), n.space = "" := by
    intro e he n hn
    cases h.of_mem_all he with
    | mk hname hattributes =>
      rcases List.mem_cons.mp hn with rfl | hn
      · exact congrArg Name.space hname.1
      · obtain ⟨a, ha, rfl⟩ := List.mem_map.mp hn
        exact congrArg Name.space (hattributes a ha).name.1
  have hadd : ∀ names : List Name, (∀ n ∈ names, n.space = "") →
      names.foldl (fun ls n => Labels.add ls n.space) [] = [] := by
    intro names hnames
    induction names with
    | nil => rfl
    | cons n rest ih =>
      rw [List.foldl_cons, hnames n (by simp)]
      exact ih fun m hm => hnames m (by simp [hm])
  unfold labelsOf
  generalize root.all = es at hspaces
  induction es with
  | nil => rfl
  | cons e rest ih =>
    rw [List.foldl_cons, hadd _ (hspaces e (by simp))]
    exact ih fun d hd => hspaces d (by simp [hd])

/-! The characters of a document with labels. -/

def nameChars (labels : Labels) (n : Name) : List Char := (writtenPlain (writtenName labels n)).toList

def labelledAttribute (labels : Labels) (a : Attribute) : List Char :=
  ' ' :: nameChars labels a.name ++ '=' :: '"' :: (writtenValue a.value).toList ++ ['"']

mutual
/-- The characters of an element; `declared` stands in front of its attributes. -/
def labelledChars (labels : Labels) (declared : List Char) : Element → List Char
  | .mk name attributes text children =>
    '<' :: nameChars labels name ++ (declared ++ attributes.flatMap (labelledAttribute labels)) ++
      if text == some "" && children.isEmpty then " />".toList
      else
        '>' :: textChars (text.getD "") ++ labelledChildren labels children ++
          ('<' :: '/' :: nameChars labels name ++ ['>'])

def labelledChildren (labels : Labels) : List (Element × String) → List Char
  | [] => []
  | (e, tail) :: rest => labelledChars labels [] e ++ textChars tail ++ labelledChildren labels rest
end

def declarationChars (entry : String × String) : List Char :=
  (" xmlns:" ++ entry.2 ++ "=\"" ++ writtenValue entry.1 ++ "\"").toList

inductive Element.Whole : Element → Prop
  | mk {name : Name} {attributes : List Attribute} {text : String}
      {children : List (Element × String)} :
      (∀ a ∈ attributes, a.form = .escaped) → (∀ c ∈ children, c.1.Whole) →
      Element.Whole (.mk name attributes (some text) children)

def Spells (pieces : List Stretch) (cs : List Char) : Prop :=
  ∃ words : List String, pieces = words.map .ok ∧ words.flatMap String.toList = cs

theorem Spells.append {ps qs : List Stretch} {cs : List Char} (hp : Spells ps cs)
    (hq : Spells qs ds) : Spells (ps ++ qs) (cs ++ ds) := by
  obtain ⟨ws, rfl, rfl⟩ := hp
  obtain ⟨vs, rfl, rfl⟩ := hq
  exact ⟨ws ++ vs, by simp, by simp⟩

theorem Spells.cons {word : String} {qs : List Stretch}
    (hq : Spells qs ds) : Spells (.ok word :: qs) (word.toList ++ ds) := by
  obtain ⟨vs, rfl, rfl⟩ := hq
  exact ⟨word :: vs, by simp, by simp⟩

theorem Spells.nil : Spells [] [] := ⟨[], rfl, rfl⟩

theorem Spells.single (word : String) : Spells [.ok word] word.toList := ⟨[word], rfl, by simp⟩

theorem attributePieces_spells (labels : Labels) (name : Name) {attributes : List Attribute}
    (text : Option String) (children : List (Element × String))
    (h : ∀ a ∈ attributes, a.form = .escaped) :
    Spells (attributePieces labels (.mk name attributes text children))
      (attributes.flatMap (labelledAttribute labels)) := by
  rw [attributePieces, Element.attributes]
  induction attributes with
  | nil => exact .nil
  | cons a rest ih =>
    have hchars : labelledAttribute labels a =
        (" " ++ writtenPlain (writtenName labels a.name) ++ "=\"" ++ writtenValue a.value ++
          "\"").toList := by
      simp [labelledAttribute, nameChars]
    rw [List.map_cons, List.flatMap_cons, hchars]
    simp only [Attribute.writtenValue?, h a (by simp), Option.map_some, Stretch.of?]
    exact .cons (ih fun b hb => h b (by simp [hb]))

theorem childrenPieces_spells {labels : Labels} {children : List (Element × String)} {room : Nat}
    (h : ∀ c ∈ children, Spells (elementPieces labels [] room c.1) (labelledChars labels [] c.1)) :
    Spells (childrenPieces labels room children) (labelledChildren labels children) := by
  induction children with
  | nil => exact .nil
  | cons c rest ih =>
    rw [childrenPieces, labelledChildren, List.append_assoc]
    exact (h c (by simp)).append (.cons (ih fun d hd => h d (by simp [hd])))

theorem heightBelow_le_iff {children : List (Element × String)} {n : Nat} :
    Element.heightBelow children ≤ n ↔ ∀ c ∈ children, c.1.height ≤ n := by
  induction children with
  | nil => simp [Element.heightBelow]
  | cons c rest ih => rw [Element.heightBelow, Nat.max_le, ih, List.forall_mem_cons]

theorem elementPieces_spells (labels : Labels) (h : e.Whole)
    {declared : List Stretch} (hdeclared : Spells declared ds) {room : Nat} (hroom : e.height ≤ room) :
    Spells (elementPieces labels declared room e) (labelledChars labels ds e) := by
  induction h generalizing declared ds room with
  | @mk name attributes text children hattributes hchildren ih =>
    cases room with
    | zero =>
      rw [Element.height] at hroom
      exact absurd hroom (Nat.not_succ_le_zero _)
    | succ room =>
    have hbelow : ∀ c ∈ children, c.1.height ≤ room :=
      heightBelow_le_iff.mp (Nat.le_of_succ_le_succ (by rwa [Element.height] at hroom))
    have hstart := attributePieces_spells labels name (some text) children hattributes
    have htag : '<' :: nameChars labels name =
        ("<" ++ writtenPlain (writtenName labels name)).toList := by
      simp [nameChars]
    have hend : '<' :: '/' :: nameChars labels name ++ ['>'] =
        ("</" ++ writtenPlain (writtenName labels name) ++ ">").toList := by
      simp [nameChars]
    have hclose : ∀ cs, '>' :: cs = ">".toList ++ cs := fun cs => rfl
    have hinner := (childrenPieces_spells fun c hc => ih c hc .nil (hbelow c hc)).append
      (.single ("</" ++ writtenPlain (writtenName labels name) ++ ">"))
    rw [elementPieces, labelledChars, htag, hend]
    simp only [List.append_assoc, List.cons_append, hclose]
    split
    · exact .cons (hdeclared.append (hstart.append (.single " />")))
    · exact .cons (hdeclared.append (hstart.append (.cons (.cons hinner))))

theorem declarations_spell (labels : Labels) :
    Spells (labels.map fun entry =>
        .ok (" xmlns:" ++ entry.2 ++ "=\"" ++ writtenValue entry.1 ++ "\""))
      (labels.flatMap declarationChars) := by
  induction labels with
  | nil => exact .nil
  | cons entry rest ih => exact .cons ih

/-! Documents that are nested too deep. Nothing else keeps a whole document from being written. -/

theorem Spells.fault_append {pieces : List Stretch} {cs : List Char} (h : Spells pieces cs)
    (more : List Stretch) :
    (pieces ++ more).findSome? Stretch.fault? = more.findSome? Stretch.fault? := by
  obtain ⟨words, rfl, -⟩ := h
  induction words with
  | nil => rfl
  | cons word words ih => exact ih

theorem childrenPieces_fault {labels : Labels} {children : List (Element × String)} {room : Nat}
    (h : ∀ c ∈ children, (elementPieces labels [] room c.1).findSome? Stretch.fault? =
      if c.1.height ≤ room then none else some .tooDeep) :
    (childrenPieces labels room children).findSome? Stretch.fault? =
      if Element.heightBelow children ≤ room then none else some .tooDeep := by
  induction children with
  | nil =>
    rw [childrenPieces, Element.heightBelow, if_pos (Nat.zero_le room)]
    rfl
  | cons c rest ih =>
    rw [List.forall_mem_cons] at h
    have htail := (Spells.single (writtenText c.2)).fault_append (childrenPieces labels room rest)
    rw [List.singleton_append, ih h.2] at htail
    rw [childrenPieces, List.findSome?_append, h.1, htail]
    simp only [Element.heightBelow, Nat.max_le]
    by_cases hc : c.1.height ≤ room
    · simp only [hc, true_and, if_true, Option.none_or]
    · simp only [hc, false_and, if_false, Option.some_or]

theorem elementPieces_fault (labels : Labels) (h : e.Whole)
    {declared : List Stretch} (hdeclared : Spells declared ds) (room : Nat) :
    (elementPieces labels declared room e).findSome? Stretch.fault? =
      if e.height ≤ room then none else some .tooDeep := by
  induction h generalizing declared ds room with
  | @mk name attributes text children hattributes hchildren ih =>
    cases room with
    | zero =>
      rw [elementPieces, Element.height, if_neg (Nat.not_succ_le_zero _)]
      rfl
    | succ room =>
      have hattributes := attributePieces_spells labels name (some text) children hattributes
      have hinner := childrenPieces_fault fun c hc => ih c hc .nil room
      have hstart : Spells (.ok ("<" ++ writtenPlain (writtenName labels name)) :: declared ++
          attributePieces labels (.mk name attributes (some text) children)) _ :=
        .cons (hdeclared.append hattributes)
      simp only [elementPieces, Element.height, Nat.add_le_add_iff_right]
      split
      · rename_i hempty
        have hnone : children = [] := by simpa using (Bool.and_eq_true_iff.mp hempty).2
        rw [hstart.fault_append, hnone, Element.heightBelow, if_pos (Nat.zero_le room)]
        rfl
      · have hopen : Spells [.ok ">", Stretch.of? ((some text).map writtenText)] _ :=
          .cons (.single (writtenText text))
        have hrest := hopen.fault_append (childrenPieces labels room children ++
          [.ok ("</" ++ writtenPlain (writtenName labels name) ++ ">")])
        rw [List.append_assoc, hstart.fault_append]
        refine hrest.trans ?_
        rw [List.findSome?_append, hinner]
        split <;> rfl

theorem documentText_fault (h : root.Whole) :
    (documentText root).2 = if root.height ≤ maxHeight then none else some .tooDeep :=
  elementPieces_fault (labelsOf root) h (declarations_spell _) maxHeight

/-- The text of a document is complete. Labels are declared in some order. -/
theorem documentText_of_whole (h : root.Whole) (hheight : root.height ≤ maxHeight) :
    ∃ sorted : Labels, sorted.Perm (labelsOf root) ∧ documentText root =
      (String.ofList (labelledChars (labelsOf root) (sorted.flatMap declarationChars) root), none) := by
  obtain ⟨sorted, hperm, hpieces⟩ : ∃ sorted : Labels, sorted.Perm (labelsOf root) ∧
      documentPieces root = elementPieces (labelsOf root) (sorted.map fun entry =>
        .ok (" xmlns:" ++ entry.2 ++ "=\"" ++ writtenValue entry.1 ++ "\"")) maxHeight root :=
    ⟨_, List.mergeSort_perm _ _, rfl⟩
  obtain ⟨words, hall, hwords⟩ :=
    elementPieces_spells (labelsOf root) h (declarations_spell sorted) hheight
  have htake : ((words.map Except.ok : List Stretch).takeWhile Except.isOk).filterMap Except.toOption =
      words := by
    clear hwords hall
    induction words with
    | nil => rfl
    | cons word words ih => exact congrArg (List.cons word) ih
  have hjoin : String.join words =
      String.ofList (labelledChars (labelsOf root) (sorted.flatMap declarationChars) root) := by
    rw [← String.toList_inj, String.toList_ofList, ← hwords, String.toList_join]
  refine ⟨sorted, hperm, Prod.ext ?_ ?_⟩
  · rw [documentText, hpieces, hall, htake, hjoin]
  · rw [documentText_fault h, if_pos hheight]

/-! Kept documents. -/

theorem Element.Kept.whole (h : e.Kept) : e.Whole := by
  induction h with
  | mk _ hattributes _ _ _ _ ih => exact .mk (fun a ha => (hattributes a ha).form) ih

theorem nameChars_of_kept {n : Name} (h : n.Kept) : nameChars [] n = n.part.toList := by
  have hspace : n.space = "" := congrArg Name.space h.1
  simp only [nameChars, writtenName, hspace]
  exact congrArg String.toList (writtenPlain_of_isSimpleName h.2)

theorem labelledChildren_of_kept {children : List (Element × String)}
    (h : ∀ c ∈ children, labelledChars [] [] c.1 = elementChars c.1) :
    labelledChildren [] children = childrenChars children := by
  induction children with
  | nil => rfl
  | cons c rest ih =>
    rw [labelledChildren, childrenChars, h c (by simp), ih fun d hd => h d (by simp [hd])]

theorem labelledChars_of_kept (h : e.Kept) : labelledChars [] [] e = elementChars e := by
  induction h with
  | @mk name attributes text children hname hattributes hnodup htext hchildren htails ih =>
    have hstart : attributes.flatMap (labelledAttribute []) = attributes.flatMap attributeChars := by
      rw [List.flatMap_def, List.flatMap_def]
      refine congrArg List.flatten (List.map_congr_left fun a ha => ?_)
      rw [labelledAttribute, attributeChars, nameChars_of_kept (hattributes a ha).name]
    rw [labelledChars, elementChars, nameChars_of_kept hname, hstart, labelledChildren_of_kept ih,
      List.nil_append]

theorem documentText_of_kept (h : root.Kept) (hheight : root.height ≤ maxHeight) :
    documentText root = (String.ofList (elementChars root), none) := by
  obtain ⟨sorted, hperm, htext⟩ := documentText_of_whole h.whole hheight
  rw [labelsOf_of_kept h] at hperm htext
  obtain rfl : sorted = [] := hperm.eq_nil
  rw [htext, ← labelledChars_of_kept h]
  rfl

end DroidAudit.Xml
