import DroidAudit.Proofs.NamespaceLabels
import DroidAudit.Proofs.ReadBack

/-! Documents with namespaces that are written and read again. If all names are of the first 128
characters and no text holds a carriage return, what is read is the document itself, but for the
labels of its names. -/
namespace DroidAudit.Xml

/-! Documents with new labels. -/

def Attribute.relabelled (labels : Labels) (a : Attribute) : Attribute :=
  { a with name := a.name.relabelled labels }

mutual
def Element.relabelled (labels : Labels) : Element → Element
  | .mk name attributes text children =>
    .mk (name.relabelled labels) (attributes.map (·.relabelled labels)) text
      (relabelledChildren labels children)

def relabelledChildren (labels : Labels) : List (Element × String) → List (Element × String)
  | [] => []
  | (e, tail) :: rest => (e.relabelled labels, tail) :: relabelledChildren labels rest
end

/-- No text in a document holds a carriage return or a character that no document may hold. -/
def Element.KeepsTexts (e : Element) : Prop :=
  ∀ d ∈ e.all, (∀ text, d.text = some text → IsText text) ∧ ∀ c ∈ d.children, IsText c.2

def Element.HasSimpleNames (e : Element) : Prop := ∀ n ∈ namesOf e, isSimpleName n.part = true

section Parts

variable {name : Name} {attributes : List Attribute} {text : Option String}
  {children : List (Element × String)}

variable {c : Element × String}

theorem Element.mem_all_of_child (hc : c ∈ children) {d : Element}
    (hd : d ∈ c.1.all) : d ∈ (Element.mk name attributes text children).all := by
  rw [Element.all, Element.allOfChildren_eq]
  exact List.mem_cons_of_mem _ (List.mem_flatMap.mpr ⟨c, hc, hd⟩)

theorem Element.self_mem_all (e : Element) : e ∈ e.all := by
  cases e with
  | mk => exact List.mem_cons_self

theorem namesOf_mk : namesOf (.mk name attributes text children) =
    name :: attributes.map (·.name) ++ children.flatMap fun c => namesOf c.1 := by
  rw [namesOf, Element.all, Element.allOfChildren_eq, List.flatMap_cons, List.flatMap_assoc]
  rfl

theorem name_mem_namesOf : name ∈ namesOf (.mk name attributes text children) := by
  simp [namesOf_mk]

theorem attribute_mem_namesOf {a : Attribute} (ha : a ∈ attributes) :
    a.name ∈ namesOf (.mk name attributes text children) := by
  rw [namesOf_mk]
  exact List.mem_append_left _ (List.mem_cons_of_mem _ (List.mem_map.mpr ⟨a, ha, rfl⟩))

theorem child_mem_namesOf (hc : c ∈ children) {n : Name}
    (hn : n ∈ namesOf c.1) : n ∈ namesOf (.mk name attributes text children) := by
  rw [namesOf_mk]
  exact List.mem_append_right _ (List.mem_flatMap.mpr ⟨c, hc, hn⟩)

theorem Element.KeepsTexts.child (h : (Element.mk name attributes text children).KeepsTexts)
    (hc : c ∈ children) : c.1.KeepsTexts ∧ IsText c.2 :=
  ⟨fun d hd => h d (mem_all_of_child hc hd), (h _ (self_mem_all _)).2 c hc⟩

theorem hasSimpleNames_mk :
    (Element.mk name attributes text children).HasSimpleNames ↔
      (isSimpleName name.part = true ∧ ∀ a ∈ attributes, isSimpleName a.name.part = true) ∧
        ∀ c ∈ children, c.1.HasSimpleNames := by
  rw [Element.HasSimpleNames, namesOf_mk]
  simp only [List.cons_append, List.forall_mem_cons, List.forall_mem_append, List.forall_mem_map,
    List.forall_mem_flatMap, and_assoc]
  rfl

end Parts

/-! Tags. -/

def Attribute.labelled (labels : Labels) (a : Attribute) : Given :=
  (labels.labelFor a.name, a.name.part, a.value)

variable {label part : String} {labels : Labels} {n : Name} {scope : Scope} {e root : Element}

theorem toList_writtenAs_low (hlabel : IsLabel label)
    (hpart : isSimpleName part = true) : ∀ c ∈ (writtenAs label part).toList, c.toNat < 128 :=
  forall_mem_writtenAs (by decide) (fun c hc => (hlabel.chars c hc).2) fun c hc =>
    (isSimpleName_chars hpart c hc).2

theorem nameChars_of_simple (h : labels.Distinct) (hn : isSimpleName n.part = true) :
    nameChars labels n = (writtenAs (labels.labelFor n) n.part).toList := by
  rw [nameChars, h.writtenName,
    writtenPlain_of_low (toList_writtenAs_low (h.isLabel_labelFor n) hn)]

theorem labelledAttribute_of_simple (h : labels.Distinct) {a : Attribute}
    (ha : isSimpleName a.name.part = true) :
    labelledAttribute labels a = givenChars (a.labelled labels) := by
  rw [labelledAttribute, nameChars_of_simple h ha]
  rfl

theorem writtenAs_injective {label' part' : String} (hlabel : IsLabel label)
    (hpart : isSimpleName part = true) (hlabel' : IsLabel label')
    (hpart' : isSimpleName part' = true) (h : writtenAs label part = writtenAs label' part') :
    label = label' ∧ part = part' := by
  have hends : endsName [] = true := rfl
  have hread := labelledName_written hlabel hpart [] hends
  rw [h, labelledName_written hlabel' hpart' [] hends, Except.ok.injEq, Prod.mk.injEq,
    Prod.mk.injEq] at hread
  exact ⟨hread.1.1.symm, hread.1.2.symm⟩

theorem nodup_written {given : List Given} (h : ∀ g ∈ given, g.Kept)
    (hnodup : (given.map fun g => (g.1, g.2.1)).Nodup) :
    (given.map fun g => writtenAs g.1 g.2.1).Nodup := by
  have hmap : (given.map fun g => writtenAs g.1 g.2.1) =
      (given.map fun g => (g.1, g.2.1)).map fun pair => writtenAs pair.1 pair.2 := by
    rw [List.map_map]
    rfl
  rw [hmap]
  refine hnodup.map_on fun pair hpair pair' hpair' heq => ?_
  obtain ⟨g, hg, rfl⟩ := List.mem_map.mp hpair
  obtain ⟨g', hg', rfl⟩ := List.mem_map.mp hpair'
  obtain ⟨hlabel, hpart⟩ := writtenAs_injective (h g hg).label (h g hg).part (h g' hg').label
    (h g' hg').part heq
  exact Prod.ext hlabel hpart

theorem labelFor_ne_xmlns (h : labels.Distinct) (n : Name) : labels.labelFor n ≠ "xmlns" := by
  unfold Labels.labelFor
  split
  · decide
  · cases hget : labels.get? n.space with
    | none => decide
    | some label => exact (h.label (Labels.mem_of_get? hget)).2.2

theorem space_eq_of_labelFor (h : labels.Distinct)
    (hfits : scope.Fits labels) {m : Name} (hm : labels.Covers m.space) (hn : labels.Covers n.space)
    (heq : labels.labelFor m = labels.labelFor n) : m.space = n.space := by
  have hempty {n : Name} (hspace : n.space = "") : labels.labelFor n = "" := by
    simp [Labels.labelFor, hspace]
  by_cases hm' : m.space = "" <;> by_cases hn' : n.space = ""
  · rw [hm', hn']
  · exact absurd (heq ▸ hempty hm') (labelFor_ne_empty h hn')
  · exact absurd (heq ▸ hempty hn') (labelFor_ne_empty h hm')
  · have hspace := hfits.spaceOf_labelFor hm hm'
    rw [heq, hfits.spaceOf_labelFor hn hn'] at hspace
    exact (Option.some.inj hspace).symm

theorem resolved_declaring (scope : Scope) (labels : Labels) :
    resolved scope (labels.map declaringGiven) = [] := by
  rw [resolved, List.map_eq_nil_iff, List.filter_eq_nil_iff]
  intro g hg
  obtain ⟨entry, -, rfl⟩ := List.mem_map.mp hg
  simp [declaredLabel, declaringGiven]

section Tags

variable {labels : Labels} {attributes : List Attribute}

theorem not_declaring_labelled (h : labels.Distinct) (hattributes : ∀ a ∈ attributes, a.Sound .tree) :
    ∀ g ∈ attributes.map (·.labelled labels), declaredLabel g.1 g.2.1 = none := by
  intro g hg
  obtain ⟨a, ha, rfl⟩ := List.mem_map.mp hg
  have hxmlns := labelFor_ne_xmlns h a.name
  by_cases hspace : a.name.space = ""
  · have hpart := (hattributes a ha).notDeclaring hspace
    simp [declaredLabel, Attribute.labelled, Labels.labelFor, hspace, hpart]
  · simp [declaredLabel, Attribute.labelled, hxmlns, labelFor_ne_empty h hspace]

theorem declaredOf_labelled (h : labels.Distinct) (hattributes : ∀ a ∈ attributes, a.Sound .tree)
    (given : List Given) :
    declaredOf (given ++ attributes.map (·.labelled labels)) = declaredOf given := by
  rw [declaredOf_append, declaredOf_eq_nil (not_declaring_labelled h hattributes), List.append_nil]

theorem nodup_labelled (h : labels.Distinct) {scope : Scope} (hfits : scope.Fits labels)
    (hcovers : ∀ a ∈ attributes, labels.Covers a.name.space)
    (hnodup : (attributes.map Attribute.key).Nodup) :
    ((attributes.map (·.labelled labels)).map fun g => (g.1, g.2.1)).Nodup := by
  induction attributes with
  | nil => simp
  | cons a attributes ih =>
    obtain ⟨ha, hrest⟩ := List.forall_mem_cons.mp hcovers
    rw [List.map_cons, List.nodup_cons] at hnodup
    rw [List.map_cons, List.map_cons, List.nodup_cons]
    refine ⟨fun hmem => hnodup.1 ?_, ih hrest hnodup.2⟩
    rw [List.map_map] at hmem
    obtain ⟨b, hb, heq⟩ := List.mem_map.mp hmem
    simp only [Function.comp_apply, Attribute.labelled, Prod.mk.injEq] at heq
    have hspace := space_eq_of_labelFor h hfits (hrest b hb) ha heq.1
    exact List.mem_map.mpr ⟨b, hb, Prod.ext hspace heq.2⟩

structure Labels.Declarable (labels : Labels) : Prop where
  once : (labels.map (·.2)).Nodup
  simple : ∀ entry ∈ labels, isSimpleName entry.2 = true
  stands : ∀ entry ∈ labels, IsLegalText entry.1 ∧ standProblem? .tree entry.2 entry.1 = none

theorem Labels.Declarable.nil : Labels.Declarable [] := ⟨by simp, by simp, by simp⟩

theorem Labels.Declarable.kept {sorted : Labels} (h : sorted.Declarable) :
    ∀ g ∈ sorted.map declaringGiven, g.Kept := by
  intro g hg
  obtain ⟨entry, hentry, rfl⟩ := List.mem_map.mp hg
  have hxmlns : isSimpleName "xmlns" = true := by decide
  exact ⟨.inr hxmlns, h.simple entry hentry, (h.stands entry hentry).1⟩

theorem tagMeans_relabelled (h : labels.Distinct) {sorted : Labels} (hsorted : sorted.Declarable)
    {scope : Scope} (hfits : Scope.Fits labels (declaredOf (sorted.map declaringGiven) ++ scope))
    {name : Name} (hname : isSimpleName name.part = true) (hcovered : labels.Covers name.space)
    (hattributes : ∀ a ∈ attributes, a.Sound .tree)
    (hnames : ∀ a ∈ attributes, isSimpleName a.name.part = true)
    (hcovers : ∀ a ∈ attributes, labels.Covers a.name.space)
    (hnodup : (attributes.map Attribute.key).Nodup) :
    TagMeans scope (labels.labelFor name) name.part
      (sorted.map declaringGiven ++ attributes.map (·.labelled labels))
      (name.relabelled labels) (attributes.map (·.relabelled labels)) := by
  have hnone := not_declaring_labelled h hattributes
  have hdeclared := declaredOf_labelled h hattributes (sorted.map declaringGiven)
  have hkept : ∀ g ∈ sorted.map declaringGiven ++ attributes.map (·.labelled labels), g.Kept := by
    refine List.forall_mem_append.mpr ⟨hsorted.kept, fun g hg => ?_⟩
    obtain ⟨a, ha, rfl⟩ := List.mem_map.mp hg
    exact ⟨h.isLabel_labelFor a.name, hnames a ha, (hattributes a ha).value⟩
  refine ⟨h.isLabel_labelFor name, hname, hkept, nodup_written hkept ?_, ?_, ?_, ?_, ?_, ?_⟩
  · rw [List.map_append, List.nodup_append']
    refine ⟨?_, nodup_labelled h hfits hcovers hnodup, fun pair hfront hbehind => ?_⟩
    · refine .of_map Prod.snd ?_
      rw [List.map_map, List.map_map]
      exact hsorted.once
    · obtain ⟨g, hg, rfl⟩ := List.mem_map.mp hfront
      obtain ⟨entry, -, rfl⟩ := List.mem_map.mp hg
      obtain ⟨g, hg, heq⟩ := List.mem_map.mp hbehind
      obtain ⟨a, -, rfl⟩ := List.mem_map.mp hg
      exact labelFor_ne_xmlns h a.name (congrArg Prod.fst heq)
  · rw [hdeclared, declaredOf_declaring]
    intro entry hentry
    obtain ⟨entry, hmem, rfl⟩ := List.mem_map.mp hentry
    exact (hsorted.stands entry hmem).2
  · rw [hdeclared]
    exact elementName_labelFor h hfits hcovered
  · rw [hdeclared, resolved_append, resolved_declaring, List.nil_append, List.map_map]
    exact resolved_map hnone fun a ha => attributeName_labelFor h hfits (hcovers a ha)
  · intro a ha
    obtain ⟨a, hmem, rfl⟩ := List.mem_map.mp ha
    exact (hattributes a hmem).form
  · rw [List.map_map]
    exact hnodup

theorem flatMap_declarationChars (sorted : Labels) :
    sorted.flatMap declarationChars = (sorted.map declaringGiven).flatMap givenChars := by
  rw [List.flatMap_map, List.flatMap_def, List.flatMap_def]
  exact congrArg List.flatten (List.map_congr_left fun entry _ => declarationChars_eq entry)

theorem flatMap_labelled (h : labels.Distinct)
    (hnames : ∀ a ∈ attributes, isSimpleName a.name.part = true) (sorted : Labels) :
    sorted.flatMap declarationChars ++ attributes.flatMap (labelledAttribute labels) =
      (sorted.map declaringGiven ++ attributes.map (·.labelled labels)).flatMap givenChars := by
  have hattributes : attributes.flatMap (labelledAttribute labels) =
      (attributes.map (·.labelled labels)).flatMap givenChars := by
    rw [List.flatMap_map, List.flatMap_def, List.flatMap_def]
    exact congrArg List.flatten (List.map_congr_left fun a ha =>
      labelledAttribute_of_simple h (hnames a ha))
  rw [List.flatMap_append, flatMap_declarationChars, hattributes]

end Tags

/-! Elements. -/

theorem head?_labelledChars (labels : Labels) (declared : List Char) (e : Element)
    (tail : List Char) : (labelledChars labels declared e ++ tail).head? = some '<' := by
  cases e with
  | mk name attributes text children =>
    rw [labelledChars]
    rfl

theorem head?_labelledChildren (labels : Labels) (children : List (Element × String))
    {tail : List Char} (htail : tail.head? = some '<') :
    (labelledChildren labels children ++ tail).head? = some '<' := by
  cases children with
  | nil => exact htail
  | cons c rest =>
    rw [labelledChildren, List.append_assoc, List.append_assoc]
    exact head?_labelledChars labels [] c.1 _

theorem passes_labelledChildren {children : List (Element × String)}
    (hread : ∀ c ∈ children, IsReadIn scope (labelledChars labels [] c.1) (c.1.relabelled labels))
    (htails : ∀ c ∈ children, IsText c.2) {tail : List Char} (htail : tail.head? = some '<') :
    ∃ items, gather items = ([], relabelledChildren labels children) ∧
      Passes scope (labelledChildren labels children ++ tail) items tail := by
  induction children with
  | nil => exact ⟨[], rfl, .refl scope tail⟩
  | cons c rest ih =>
    obtain ⟨e, behind⟩ := c
    obtain ⟨helement, hread⟩ := List.forall_mem_cons.mp hread
    obtain ⟨hbehind, htails⟩ := List.forall_mem_cons.mp htails
    obtain ⟨items, hgather, hrest⟩ := ih hread htails
    obtain ⟨ds, hds, htext⟩ := Passes.isText scope hbehind
    obtain ⟨runs, hruns, htext⟩ := htext _ (head?_labelledChildren labels rest htail)
    refine ⟨[.element (e.relabelled labels)] ++ (runs.map .text ++ items), ?_, ?_⟩
    · rw [List.singleton_append, gather, gather_texts, hgather, relabelledChildren]
      simp [hruns, ← hds]
    · have hall := (Passes.element helement _).trans (htext.trans hrest)
      simpa [labelledChildren] using hall

theorem readsIn_labelled {children : List (Element × String)}
    (hread : ∀ c ∈ children, IsReadIn scope (labelledChars labels [] c.1) (c.1.relabelled labels))
    (htails : ∀ c ∈ children, IsText c.2) {text : String} (htext : IsText text) :
    ∃ ds, text = String.ofList (Text.ofChars ds) ∧ ∀ more,
      ReadsIn scope (textChars text ++ labelledChildren labels children ++ '<' :: '/' :: more) ds
        (relabelledChildren labels children) ('<' :: '/' :: more) := by
  obtain ⟨ds, hds, hpasses⟩ := Passes.isText scope htext
  refine ⟨ds, hds, fun more => ?_⟩
  have hend : ('<' :: '/' :: more).head? = some '<' := rfl
  obtain ⟨items, hgather, hchildren⟩ := passes_labelledChildren hread htails hend
  obtain ⟨runs, hruns, htext⟩ := hpasses _ (head?_labelledChildren labels children hend)
  have hread := (htext.trans hchildren).readsIn_endTag
  rw [gather_texts, hgather, List.append_nil, hruns] at hread
  rw [List.append_assoc]
  exact hread

/-- A sound element is read as itself, with the labels that it was written with. Only the root has
declarations, so the scope inside of it is that of all elements below. -/
theorem isReadIn_relabelled (h : labels.Distinct)
    (hsound : e.Sound .tree) (htexts : e.KeepsTexts) (hnames : e.HasSimpleNames)
    (hcovers : ∀ n ∈ namesOf e, labels.Covers n.space) {sorted : Labels} (hsorted : sorted.Declarable)
    (hfits : Scope.Fits labels (declaredOf (sorted.map declaringGiven) ++ scope)) :
    IsReadIn scope (labelledChars labels (sorted.flatMap declarationChars) e)
      (e.relabelled labels) := by
  induction hsound generalizing sorted scope with
  | @mk name attributes text children hname hattributes hnodup hlegal hchildren htails ih =>
    have hsimple : ∀ a ∈ attributes, isSimpleName a.name.part = true := fun a ha =>
      hnames _ (attribute_mem_namesOf ha)
    have hmeans := tagMeans_relabelled h hsorted hfits (hnames _ name_mem_namesOf)
      (hcovers _ name_mem_namesOf) hattributes hsimple
      (fun a ha => hcovers _ (attribute_mem_namesOf ha)) hnodup
    have hgiven := flatMap_labelled h hsimple sorted
    have htag := nameChars_of_simple h (hnames _ name_mem_namesOf)
    rw [labelledChars, Element.relabelled, hgiven, htag]
    by_cases hempty : text = "" ∧ children = []
    · obtain ⟨rfl, rfl⟩ := hempty
      simpa [relabelledChildren] using hmeans.isReadIn_empty
    · have hfilled : ¬(some text == some "" && children.isEmpty) = true := by simpa using hempty
      have hread : ∀ c ∈ children, IsReadIn (declaredOf (sorted.map declaringGiven) ++ scope)
          (labelledChars labels [] c.1) (c.1.relabelled labels) := fun c hc =>
        ih c hc (htexts.child hc).1 (fun n hn => hnames n (child_mem_namesOf hc hn))
          (fun n hn => hcovers n (child_mem_namesOf hc hn)) .nil hfits
      have htext : IsText text := (htexts _ (Element.self_mem_all _)).1 text rfl
      have hdeclared := declaredOf_labelled h hattributes (sorted.map declaringGiven)
      obtain ⟨ds, hds, hinner⟩ := readsIn_labelled hread (fun c hc => (htexts.child hc).2) htext
      rw [← hdeclared] at hinner
      have hread := hmeans.isReadIn hinner
      rw [← hds] at hread
      rw [if_neg hfilled]
      simpa using hread

/-! Documents. -/

theorem Element.Sound.whole {w : Way} (h : e.Sound w) : e.Whole := by
  induction h with
  | mk _ hattributes _ _ _ _ ih => exact .mk (fun a ha => (hattributes a ha).form) ih

theorem Element.Sound.names {w : Way} (h : e.Sound w) : ∀ n ∈ namesOf e, n.Sound w := by
  intro n hn
  obtain ⟨d, hd, hn⟩ := List.mem_flatMap.mp hn
  cases h.of_mem_all hd with
  | mk hname hattributes =>
    rcases List.mem_cons.mp hn with rfl | hn
    · exact hname
    · obtain ⟨a, ha, rfl⟩ := List.mem_map.mp hn
      exact (hattributes a ha).name

theorem legal_of_continuesName {c : Char} (h : continuesName c = true) :
    isLegal c = true ∧ Text.isReserved c = false ∧ c ≠ '\r' := by
  have hreturn : c ≠ '\r' := by
    rintro rfl
    exact absurd h (by decide)
  by_cases hlow : c.toNat < 128
  · have hplain : isPlainChar c = true := isPlainChar_of_low h hlow (by decide)
    simp only [isPlainChar, Bool.and_eq_true] at hplain
    exact ⟨hplain.1.2, Text.isReserved_of_low hlow, hreturn⟩
  · have hbound {table : List Text.Range} (htable : table.all (·.2 < 0xD800) = true)
        (hwithin : Text.within table c = true) : c.toNat < 0xD800 := by
      obtain ⟨r, hr, hc⟩ := List.any_eq_true.mp hwithin
      have hmost := List.all_eq_true.mp htable r hr
      simp only [Bool.and_eq_true, decide_eq_true_eq] at hc hmost
      omega
    have hhigh : c.toNat < 0xD800 := by
      have hdigit : c.isDigit = false := by
        rw [Bool.eq_false_iff]
        intro hdigit
        simp only [Char.isDigit, Bool.and_eq_true, decide_eq_true_eq, UInt32.le_iff_toNat_le] at hdigit
        have hmost : c.toNat ≤ 57 := hdigit.2
        omega
      have hsign {d : Char} (hd : d.toNat < 128) : (c == d) = false := by
        rw [beq_eq_false_iff_ne]
        rintro rfl
        exact hlow hd
      simp only [continuesName, opensName, if_neg hlow, hdigit, hsign (d := '-') (by decide),
        hsign (d := '.') (by decide), Bool.or_false, Bool.or_eq_true, Bool.and_eq_true] at h
      rcases h with h | ⟨-, h⟩
      · exact hbound (by decide) h
      · exact hbound (by decide) h
    refine ⟨?_, ?_, hreturn⟩
    · simp only [isLegal, Bool.and_eq_true, Bool.or_eq_true, decide_eq_true_eq, bne_iff_ne]
      omega
    · simp only [Text.isReserved, Bool.and_eq_false_iff, decide_eq_false_iff_not]
      omega

theorem writtenAs_legal (hlabel : IsLabel label) (hpart : IsPart part) :
    ∀ c ∈ (writtenAs label part).toList,
      isLegal c = true ∧ Text.isReserved c = false ∧ c ≠ '\r' :=
  forall_mem_writtenAs (by decide) (fun c hc => legal_of_continuesName (hlabel.chars c hc).1)
    fun c hc => legal_of_continuesName (hpart.2 c hc)

theorem writtenPlain_plain {s : String}
    (hchars : ∀ c ∈ s.toList, isLegal c = true ∧ Text.isReserved c = false ∧ c ≠ '\r') :
    ∀ d ∈ (writtenPlain s).toList, isPlainChar d = true := by
  have hs : s = String.ofList (Text.ofChars s.toList) := by
    rw [Text.ofChars_of_plain fun c hc => (hchars c hc).2.1, String.ofList_toList]
  have hescape : ∀ c : Char, c.toNat < 128 → WrittenAs [] c [c] := fun c hlow => .itself hlow (by simp)
  have hplain := written_plain hescape fun c hc => ⟨(hchars c hc).1, fun _ => (hchars c hc).2.2⟩
  rwa [← hs] at hplain

theorem nameChars_plain (h : labels.Distinct) (hn : IsPart n.part) :
    ∀ d ∈ nameChars labels n, isPlainChar d = true := by
  rw [nameChars, h.writtenName]
  exact writtenPlain_plain (writtenAs_legal (h.isLabel_labelFor n) hn)

theorem labelledAttribute_plain (h : labels.Distinct) {a : Attribute}
    (ha : a.Sound .tree) : ∀ d ∈ labelledAttribute labels a, isPlainChar d = true := by
  have hname := nameChars_plain h ha.name.part
  have hvalue := writtenValue_plain ha.value
  simp only [labelledAttribute, List.forall_mem_append, List.forall_mem_cons]
  exact ⟨⟨⟨rfl, hname⟩, rfl, rfl, hvalue⟩, rfl, by simp⟩

theorem labelledChars_plain (h : labels.Distinct)
    (hsound : e.Sound .tree) (htexts : e.KeepsTexts) {declared : List Char}
    (hdeclared : ∀ d ∈ declared, isPlainChar d = true) :
    ∀ d ∈ labelledChars labels declared e, isPlainChar d = true := by
  induction hsound generalizing declared with
  | @mk name attributes text children hname hattributes hnodup hlegal hchildren htails ih =>
    have hpart := nameChars_plain h hname.part
    have hstart : ∀ d ∈ attributes.flatMap (labelledAttribute labels), isPlainChar d = true :=
      List.forall_mem_flatMap.mpr fun a ha => labelledAttribute_plain h (hattributes a ha)
    have hinner : ∀ d ∈ labelledChildren labels children, isPlainChar d = true := by
      have hall : ∀ c ∈ children, IsText c.2 := fun c hc => (htexts.child hc).2
      have hread : ∀ c ∈ children, ∀ d ∈ labelledChars labels [] c.1, isPlainChar d = true :=
        fun c hc => ih c hc (htexts.child hc).1 (by simp)
      clear hchildren htails htexts ih
      induction children with
      | nil => simp [labelledChildren]
      | cons c rest ihrest =>
        simp only [labelledChildren, List.forall_mem_append]
        exact ⟨⟨hread c (by simp), textChars_plain (hall c (by simp))⟩,
          ihrest (fun d hd => hall d (by simp [hd])) fun d hd => hread d (by simp [hd])⟩
    have htext : IsText text := (htexts _ (Element.self_mem_all _)).1 text rfl
    rw [labelledChars]
    split
    · simp only [List.forall_mem_append, List.forall_mem_cons]
      exact ⟨⟨⟨rfl, hpart⟩, hdeclared, hstart⟩, List.all_eq_true.mp rfl⟩
    · simp only [List.forall_mem_append, List.forall_mem_cons]
      exact ⟨⟨⟨rfl, hpart⟩, hdeclared, hstart⟩,
        ⟨⟨rfl, textChars_plain htext⟩, hinner⟩, ⟨rfl, rfl, hpart⟩, rfl, by simp⟩

theorem declarationChars_plain {entry : String × String} (hlabel : isSimpleName entry.2 = true)
    (hspace : IsLegalText entry.1) : ∀ d ∈ declarationChars entry, isPlainChar d = true := by
  have hname := simpleName_plain hlabel
  have hvalue := writtenValue_plain hspace
  simp only [declarationChars, String.toList_append, List.forall_mem_append]
  exact ⟨⟨⟨⟨List.all_eq_true.mp rfl, hname⟩, List.all_eq_true.mp rfl⟩, hvalue⟩,
    List.all_eq_true.mp rfl⟩

theorem declarable_of_labelsOf (hsound : root.Sound .tree) {sorted : Labels}
    (hperm : sorted.Perm (labelsOf root)) : sorted.Declarable where
  once := ((hperm.map _).nodup_iff).mpr (labelsOf_distinct root).once
  simple := fun _ hentry => ((labelsOf_distinct root).label (hperm.mem_iff.mp hentry)).1
  stands := fun _ hentry =>
    standProblem?_of_labelsOf (fun n hn => (hsound.names n hn).space) (hperm.mem_iff.mp hentry)

theorem documentText_of_sound (hsound : root.Sound .tree) (htexts : root.KeepsTexts)
    (hheight : root.height ≤ maxHeight) :
    ∃ sorted : Labels, sorted.Perm (labelsOf root) ∧ sorted.Declarable ∧
      documentText root =
        (String.ofList (labelledChars (labelsOf root) (sorted.flatMap declarationChars) root), none) ∧
      ∀ d ∈ labelledChars (labelsOf root) (sorted.flatMap declarationChars) root,
        isPlainChar d = true := by
  obtain ⟨sorted, hperm, htext⟩ := documentText_of_whole hsound.whole hheight
  have hdeclarable := declarable_of_labelsOf hsound hperm
  refine ⟨sorted, hperm, hdeclarable, htext,
    labelledChars_plain (labelsOf_distinct root) hsound htexts fun d hd => ?_⟩
  obtain ⟨entry, hentry, hd⟩ := List.mem_flatMap.mp hd
  have hlegal := (hdeclarable.stands entry hentry).1
  exact declarationChars_plain (hdeclarable.simple entry hentry) hlegal d hd

theorem read_rewritten (hsound : root.Sound .tree) (htexts : root.KeepsTexts)
    (hnames : root.HasSimpleNames) (hheight : root.height ≤ maxHeight) :
    read .tree (Text.encoded (documentText root).1) = .ok (root.relabelled (labelsOf root)) := by
  obtain ⟨sorted, hperm, hdeclarable, htext, hplain⟩ := documentText_of_sound hsound htexts hheight
  have hdistinct := labelsOf_distinct root
  have hroot := isReadIn_relabelled hdistinct hsound htexts hnames
    (fun n hn => labelsOf_covers hn) hdeclarable (fits_of_declared hdistinct hperm)
  have hread := read_of_isRead (isRead_iff.mpr hroot) hplain [] (by simp) (by simp)
  rw [List.append_nil] at hread
  rw [htext, encoded_of_plain, hread]
  rwa [String.toList_ofList]

end DroidAudit.Xml
