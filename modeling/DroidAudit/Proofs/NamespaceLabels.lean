import DroidAudit.Proofs.SoundDocument
import DroidAudit.Proofs.WrittenTags
import Mathlib.Data.List.Perm.Basic

/-! Labels of namespaces. A document gives each of its namespaces one label, that of a well-known
namespace or a numbered one, and no label twice. Declared on the root, the labels stand for the
namespaces again wherever a name has one. -/
namespace DroidAudit.Xml

/-! Giving out labels. -/

def numberedLabel (n : Nat) : String := "ns" ++ toString n

theorem toList_numberedLabel (n : Nat) :
    (numberedLabel n).toList = 'n' :: 's' :: Nat.toDigits 10 n := by
  have hdigits : (toString n).toList = Nat.toDigits 10 n := by
    rw [Nat.toString_eq_ofList_toDigits, String.toList_ofList]
  rw [numberedLabel, String.toList_append, hdigits]
  rfl

theorem numberedLabel_injective {m n : Nat} (h : numberedLabel m = numberedLabel n) : m = n := by
  have hchars := congrArg String.toList h
  rw [toList_numberedLabel, toList_numberedLabel, List.cons.injEq, List.cons.injEq] at hchars
  calc m = Nat.ofDigitChars 10 (Nat.toDigits 10 m) 0 := Nat.ofDigitChars_ten_toDigits.symm
    _ = Nat.ofDigitChars 10 (Nat.toDigits 10 n) 0 := by rw [hchars.2.2]
    _ = n := Nat.ofDigitChars_ten_toDigits

theorem isSimpleName_numberedLabel (n : Nat) : isSimpleName (numberedLabel n) = true := by
  have hdigits : ∀ c ∈ Nat.toDigits 10 n, (continuesName c && decide (c.toNat < 128)) = true := by
    intro c hc
    have hdigit : c.isDigit = true := Nat.isDigit_of_mem_toDigits (by decide) (by decide) hc
    have hlow : c.toNat < 128 :=
      Nat.lt_of_le_of_lt (Char.isDigit_iff_toNat.mp hdigit).2 (by decide)
    simp [continuesName, hdigit, hlow]
  have hfront : opensName 'n' = true ∧ continuesName 'n' = true ∧ continuesName 's' = true := by
    decide
  rw [isSimpleName, toList_numberedLabel, List.all_cons, List.all_cons, List.all_eq_true.mpr hdigits]
  simp [hfront]

namespace Labels

variable {labels : Labels} {space : String}

theorem mem_of_get? {label : String} (h : labels.get? space = some label) :
    (space, label) ∈ labels := by
  obtain ⟨entry, hfind, rfl⟩ := Option.map_eq_some_iff.mp h
  have hentry : entry.1 = space := by simpa using List.find?_some hfind
  rw [← hentry]
  exact List.mem_of_find?_eq_some hfind

theorem not_mem_of_get? (h : labels.get? space = none) : space ∉ labels.map (·.1) := by
  intro hmem
  obtain ⟨entry, hentry, rfl⟩ := List.mem_map.mp hmem
  rw [get?, Option.map_eq_none_iff, List.find?_eq_none] at h
  exact h entry hentry (by simp)

theorem get?_append (labels more : Labels) (space : String) :
    get? (labels ++ more) space = (labels.get? space).or (more.get? space) := by
  rw [get?, List.find?_append]
  cases hfind : labels.find? (·.1 == space) <;> simp [get?, hfind]

/-- A namespace that has a label or is reserved keeps its labels; another one gets that of a
well-known namespace or the next number. -/
theorem add_cases (labels : Labels) (space : String) :
    (labels.add space = labels ∧
      (space = "" ∨ (labels.get? space).isSome = true ∨ get? knownLabels space = some "xml")) ∨
    (space ≠ "" ∧ labels.get? space = none ∧ ∃ label, labels.add space = labels ++ [(space, label)] ∧
      (get? knownLabels space = some label ∧ label ≠ "xml" ∨
        get? knownLabels space = none ∧ label = numberedLabel labels.length)) := by
  unfold add
  split
  · rename_i h
    rw [Bool.or_eq_true, String.isEmpty_iff] at h
    exact .inl ⟨rfl, h.elim .inl fun hsome => .inr (.inl hsome)⟩
  · rename_i h
    rw [Bool.or_eq_true, String.isEmpty_iff, not_or, Bool.not_eq_true, Option.isSome_eq_false_iff,
      Option.isNone_iff_eq_none] at h
    split
    · rename_i hknown
      exact .inl ⟨rfl, .inr (.inr hknown)⟩
    · rename_i label hxml hknown
      exact .inr ⟨h.1, h.2, label, rfl, .inl ⟨hknown, hxml⟩⟩
    · rename_i hknown
      exact .inr ⟨h.1, h.2, _, rfl, .inr ⟨hknown, rfl⟩⟩

/-- Labels as they are given out: for every namespace one, and none of them twice. -/
structure Distinct (labels : Labels) : Prop where
  named : ∀ entry ∈ labels, entry.1 ≠ ""
  spaces : (labels.map (·.1)).Nodup
  once : (labels.map (·.2)).Nodup
  origin : ∀ entry ∈ labels,
    get? knownLabels entry.1 = some entry.2 ∧ entry.2 ≠ "xml" ∨
      get? knownLabels entry.1 = none ∧ ∃ i < labels.length, entry.2 = numberedLabel i

theorem Distinct.nil : Distinct [] := ⟨by simp, by simp, by simp, by simp⟩

theorem known_ne_numbered {label : String} (h : get? knownLabels space = some label) (n : Nat) :
    label ≠ numberedLabel n := by
  have hfirst : ∀ entry ∈ knownLabels, entry.2.toList.head? ≠ some 'n' := by decide
  rintro rfl
  exact hfirst _ (mem_of_get? h) (by rw [toList_numberedLabel]; rfl)

theorem known_injective {space' label : String} (h : get? knownLabels space = some label)
    (h' : get? knownLabels space' = some label) : space = space' := by
  have hall : ∀ entry ∈ knownLabels, ∀ entry' ∈ knownLabels, entry.2 = entry'.2 → entry.1 = entry'.1 := by
    decide
  exact hall _ (mem_of_get? h) _ (mem_of_get? h') rfl

theorem Distinct.add (h : labels.Distinct) (space : String) : (labels.add space).Distinct := by
  obtain ⟨heq, -⟩ | ⟨hne, hnone, label, heq, horigin⟩ := add_cases labels space
  · rwa [heq]
  have hspace := not_mem_of_get? hnone
  -- the new label differs from those of well-known namespaces and from those with lower numbers
  have hlabel : label ∉ labels.map (·.2) := by
    intro hmem
    obtain ⟨entry, hentry, rfl⟩ := List.mem_map.mp hmem
    rcases horigin with ⟨hknown, -⟩ | ⟨hunknown, hnumber⟩ <;>
      obtain ⟨hknown', -⟩ | ⟨-, i, hi, hnumber'⟩ := h.origin entry hentry
    · exact hspace (List.mem_map.mpr ⟨entry, hentry, known_injective hknown' hknown⟩)
    · exact known_ne_numbered hknown i hnumber'
    · exact known_ne_numbered hknown' _ hnumber
    · have hsame := numberedLabel_injective (hnumber'.symm.trans hnumber)
      omega
  rw [heq]
  refine ⟨?_, ?_, ?_, ?_⟩
  · exact List.forall_mem_append.mpr ⟨h.named, List.forall_mem_singleton.mpr hne⟩
  · rw [List.map_append, List.nodup_append_comm]
    exact List.nodup_cons.mpr ⟨hspace, h.spaces⟩
  · rw [List.map_append, List.nodup_append_comm]
    exact List.nodup_cons.mpr ⟨hlabel, h.once⟩
  · rw [List.length_append, List.length_singleton]
    refine List.forall_mem_append.mpr ⟨fun entry hentry => ?_, List.forall_mem_singleton.mpr ?_⟩
    · obtain hknown | ⟨hunknown, i, hi, hnumber⟩ := h.origin entry hentry
      · exact .inl hknown
      · exact .inr ⟨hunknown, i, by omega, hnumber⟩
    · obtain hknown | ⟨hunknown, hnumber⟩ := horigin
      · exact .inl hknown
      · exact .inr ⟨hunknown, labels.length, by omega, hnumber⟩

theorem Distinct.label (h : labels.Distinct) {entry : String × String} (hentry : entry ∈ labels) :
    isSimpleName entry.2 = true ∧ entry.2 ≠ "xml" ∧ entry.2 ≠ "xmlns" := by
  obtain ⟨hknown, hxml⟩ | ⟨-, i, -, hnumber⟩ := h.origin entry hentry
  · have hall : ∀ entry ∈ knownLabels, isSimpleName entry.2 = true ∧ entry.2 ≠ "xmlns" := by decide
    obtain ⟨hsimple, hxmlns⟩ := hall _ (mem_of_get? hknown)
    exact ⟨hsimple, hxml, hxmlns⟩
  · have hother {s : String} (hs : s.toList.head? ≠ some 'n') : entry.2 ≠ s := by
      rintro rfl
      rw [hnumber, toList_numberedLabel] at hs
      exact hs rfl
    rw [hnumber]
    exact ⟨isSimpleName_numberedLabel i, hnumber ▸ hother (by decide), hnumber ▸ hother (by decide)⟩

theorem Distinct.ne_xmlSpace (h : labels.Distinct) {entry : String × String}
    (hentry : entry ∈ labels) : entry.1 ≠ xmlSpace := by
  have hreserved : get? knownLabels xmlSpace = some "xml" := by decide
  intro hspace
  obtain ⟨hknown, hxml⟩ | ⟨hunknown, -⟩ := h.origin entry hentry
  · rw [hspace, hreserved] at hknown
    exact hxml (Option.some.inj hknown).symm
  · rw [hspace, hreserved] at hunknown
    cases hunknown

/-! The labels of a document. -/

/-- A namespace that can be written: none, the reserved one, or one with a label. -/
def Covers (labels : Labels) (space : String) : Prop :=
  space = "" ∨ space = xmlSpace ∨ (labels.get? space).isSome = true

theorem Covers.add (h : labels.Covers space) (other : String) :
    (labels.add other).Covers space := by
  obtain ⟨heq, -⟩ | ⟨-, -, label, heq, -⟩ := add_cases labels other
  · rwa [heq]
  · rw [heq]
    obtain hempty | hxml | hsome := h
    · exact .inl hempty
    · exact .inr (.inl hxml)
    · refine .inr (.inr ?_)
      rw [get?_append]
      cases hget : labels.get? space with
      | none => simp [hget] at hsome
      | some label => rfl

theorem covers_add (labels : Labels) (space : String) : (labels.add space).Covers space := by
  obtain ⟨heq, hempty | hsome | hknown⟩ | ⟨-, hnone, label, heq, -⟩ := add_cases labels space
  · exact .inl hempty
  · rw [heq]
    exact .inr (.inr hsome)
  · have hall : ∀ entry ∈ knownLabels, entry.2 = "xml" → entry.1 = xmlSpace := by decide
    exact .inr (.inl (hall _ (mem_of_get? hknown) rfl))
  · refine .inr (.inr ?_)
    rw [heq, get?_append, hnone]
    simp [get?]

end Labels

def namesOf (root : Element) : List Name :=
  root.all.flatMap fun e => e.name :: e.attributes.map (·.name)

theorem labelsOf_eq (root : Element) :
    labelsOf root = (namesOf root).foldl (fun labels n => Labels.add labels n.space) [] := by
  rw [labelsOf, namesOf, List.foldl_flatMap]

variable {labels : Labels} {n : Name} {root : Element} {scope : Scope}

theorem foldl_add_distinct (h : labels.Distinct) (names : List Name) :
    Labels.Distinct (names.foldl (fun labels n => labels.add n.space) labels) :=
  names.foldlRecOn _ h fun _ h n _ => h.add n.space

theorem labelsOf_distinct (root : Element) : (labelsOf root).Distinct := by
  rw [labelsOf_eq]
  exact foldl_add_distinct .nil _

theorem foldl_add_covers {space : String} (h : labels.Covers space) (names : List Name) :
    Labels.Covers (names.foldl (fun labels n => labels.add n.space) labels) space :=
  names.foldlRecOn (motive := (Labels.Covers · space)) _ h fun _ h n _ => h.add n.space

theorem labelsOf_covers (h : n ∈ namesOf root) : (labelsOf root).Covers n.space := by
  rw [labelsOf_eq]
  generalize ([] : Labels) = labels
  generalize namesOf root = names at h
  induction names generalizing labels with
  | nil => cases h
  | cons m names ih =>
    rcases List.mem_cons.mp h with rfl | h
    · exact foldl_add_covers (Labels.covers_add labels n.space) names
    · exact ih (Labels.add labels m.space) h

theorem mem_namesOf_of_labelsOf {entry : String × String}
    (h : entry ∈ labelsOf root) : ∃ n ∈ namesOf root, n.space = entry.1 := by
  have hfold : ∀ (names : List Name) (labels : Labels),
      entry ∈ names.foldl (fun labels n => labels.add n.space) labels →
      entry ∈ labels ∨ ∃ n ∈ names, n.space = entry.1 := by
    intro names
    induction names with
    | nil => exact fun labels h => .inl h
    | cons m names ih =>
      intro labels h
      rcases ih (labels.add m.space) h with h | ⟨n, hn, hspace⟩
      · obtain ⟨heq, -⟩ | ⟨-, -, label, heq, -⟩ := Labels.add_cases labels m.space
        · exact .inl (heq ▸ h)
        · rw [heq] at h
          rcases List.mem_append.mp h with h | h
          · exact .inl h
          · obtain rfl := List.mem_singleton.mp h
            exact .inr ⟨m, by simp, rfl⟩
      · exact .inr ⟨n, List.mem_cons_of_mem _ hn, hspace⟩
  rw [labelsOf_eq] at h
  exact (hfold _ _ h).resolve_left List.not_mem_nil

/-! Names with their labels. -/

def Labels.labelFor (labels : Labels) (n : Name) : String :=
  if n.space.isEmpty then "" else (labels.get? n.space).getD "xml"

def Name.relabelled (labels : Labels) (n : Name) : Name := ⟨labels.labelFor n, n.part, n.space⟩

theorem Labels.Distinct.isLabel_labelFor (h : labels.Distinct) (n : Name) :
    IsLabel (labels.labelFor n) := by
  unfold Labels.labelFor
  split
  · exact .inl rfl
  · cases hget : labels.get? n.space with
    | none => exact .inr (by decide)
    | some label => exact .inr (h.label (mem_of_get? hget)).1

theorem Labels.Distinct.writtenName (h : labels.Distinct) (n : Name) :
    Xml.writtenName labels n = writtenAs (labels.labelFor n) n.part := by
  unfold Xml.writtenName Labels.labelFor
  split
  · rfl
  · cases hget : labels.get? n.space with
    | none => rfl
    | some label =>
      have hlabel := ne_empty_of_isSimpleName (h.label (mem_of_get? hget)).1
      simp [writtenAs, hlabel]

/-- In a scope, the labels of a document stand for their namespaces, and there is no default. -/
structure Scope.Fits (labels : Labels) (scope : Scope) : Prop where
  plain : spaceOf scope "" = none
  reserved : spaceOf scope "xml" = some xmlSpace
  known : ∀ {space label}, labels.get? space = some label → spaceOf scope label = some space

theorem labelFor_of_ne (hne : n.space ≠ "") :
    labels.labelFor n = (labels.get? n.space).getD "xml" := by simp [Labels.labelFor, hne]

theorem Scope.Fits.spaceOf_labelFor (h : scope.Fits labels)
    (hcovers : labels.Covers n.space) (hne : n.space ≠ "") :
    spaceOf scope (labels.labelFor n) = some n.space := by
  rw [labelFor_of_ne hne]
  cases hget : labels.get? n.space with
  | some label => exact h.known hget
  | none =>
    obtain hempty | hxml | hsome := hcovers
    · exact absurd hempty hne
    · rw [hxml]
      exact h.reserved
    · simp [hget] at hsome

theorem labelFor_ne_empty (h : labels.Distinct) (hne : n.space ≠ "") : labels.labelFor n ≠ "" := by
  rw [labelFor_of_ne hne]
  cases hget : labels.get? n.space with
  | none => decide
  | some label => exact ne_empty_of_isSimpleName (h.label (Labels.mem_of_get? hget)).1

theorem attributeName_labelFor (hdistinct : labels.Distinct)
    (h : scope.Fits labels) (hcovers : labels.Covers n.space) :
    attributeName scope (labels.labelFor n) n.part = some (n.relabelled labels) := by
  by_cases hne : n.space = ""
  · simp [attributeName, Name.relabelled, Labels.labelFor, hne, Name.plain]
  · simp [attributeName, Name.relabelled, labelFor_ne_empty hdistinct hne,
      h.spaceOf_labelFor hcovers hne]

theorem elementName_labelFor (hdistinct : labels.Distinct)
    (h : scope.Fits labels) (hcovers : labels.Covers n.space) :
    elementName scope (labels.labelFor n) n.part = some (n.relabelled labels) := by
  by_cases hne : n.space = ""
  · simp [elementName, Name.relabelled, Labels.labelFor, hne, h.plain]
  · simp [elementName, Name.relabelled, labelFor_ne_empty hdistinct hne,
      h.spaceOf_labelFor hcovers hne]

/-! Declaring the labels. -/

def declaringGiven (entry : String × String) : Given := ("xmlns", entry.2, entry.1)

theorem declarationChars_eq (entry : String × String) :
    declarationChars entry = givenChars (declaringGiven entry) := by
  simp [declarationChars, givenChars, declaringGiven, writtenAs]

theorem declaredOf_declaring (labels : Labels) :
    declaredOf (labels.map declaringGiven) = labels.map fun entry => (entry.2, entry.1) := by
  rw [declaredOf, List.filterMap_map, ← List.filterMap_eq_map]
  rfl

theorem spaceOf_of_nodup (h : (scope.map (·.1)).Nodup) {label space : String}
    (hmem : (label, space) ∈ scope) (outer : Scope) :
    spaceOf (scope ++ outer) label = some space := by
  induction scope with
  | nil => cases hmem
  | cons entry rest ih =>
    rw [List.map_cons, List.nodup_cons] at h
    rcases List.mem_cons.mp hmem with rfl | hmem
    · simp [spaceOf]
    · have hne : entry.1 ≠ label := fun heq => h.1 (List.mem_map.mpr ⟨_, hmem, heq.symm⟩)
      have hmore := ih h.2 hmem
      simpa [spaceOf, hne] using hmore

theorem spaceOf_of_not_mem {label : String} (h : ∀ entry ∈ scope, entry.1 ≠ label)
    (outer : Scope) : spaceOf (scope ++ outer) label = spaceOf outer label := by
  have hnone : scope.find? (·.1 == label) = none := by
    rw [List.find?_eq_none]
    intro entry hentry
    simp [h entry hentry]
  rw [spaceOf, List.find?_append, hnone]
  rfl

theorem fits_of_declared {sorted : Labels} (h : labels.Distinct) (hperm : sorted.Perm labels) :
    Scope.Fits labels (declaredOf (sorted.map declaringGiven) ++ outerScope) := by
  rw [declaredOf_declaring]
  have hnames : ∀ entry ∈ sorted.map fun entry => (entry.2, entry.1),
      isSimpleName entry.1 = true ∧ entry.1 ≠ "xml" := by
    intro entry hentry
    obtain ⟨entry, hmem, rfl⟩ := List.mem_map.mp hentry
    obtain ⟨hsimple, hxml, -⟩ := h.label (hperm.mem_iff.mp hmem)
    exact ⟨hsimple, hxml⟩
  refine ⟨?_, ?_, fun {space label} hget => ?_⟩
  · rw [spaceOf_of_not_mem fun entry hentry => ne_empty_of_isSimpleName (hnames entry hentry).1]
    rfl
  · rw [spaceOf_of_not_mem fun entry hentry => (hnames entry hentry).2]
    rfl
  · refine spaceOf_of_nodup ?_ ?_ _
    · rw [List.map_map]
      exact ((hperm.map _).nodup_iff).mpr h.once
    · exact List.mem_map.mpr ⟨(space, label), hperm.mem_iff.mpr (Labels.mem_of_get? hget), rfl⟩

theorem standProblem?_of_labelsOf (h : ∀ n ∈ namesOf root, Admissible .tree n.space)
    {entry : String × String} (hentry : entry ∈ labelsOf root) :
    IsLegalText entry.1 ∧ standProblem? .tree entry.2 entry.1 = none := by
  have hdistinct := labelsOf_distinct root
  have hnamed := hdistinct.named entry hentry
  have hxmlSpace := hdistinct.ne_xmlSpace hentry
  obtain ⟨-, hxml, hxmlns⟩ := hdistinct.label hentry
  obtain ⟨n, hn, hspace⟩ := mem_namesOf_of_labelsOf hentry
  obtain hempty | hreserved | ⟨hlegal, hdeclaring, hseparator⟩ := hspace ▸ h n hn
  · exact absurd hempty hnamed
  · exact absurd hreserved hxmlSpace
  · refine ⟨hlegal, ?_⟩
    simp [standProblem?, hnamed, hxmlns, hxml, hxmlSpace, hdeclaring, hseparator]

end DroidAudit.Xml
