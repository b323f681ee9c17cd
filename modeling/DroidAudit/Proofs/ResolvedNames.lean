import DroidAudit.Proofs.SoundDocument

/-! Attribute names in documents that were read. A label in front of a colon is cut off and stands
for a namespace that has a name. Main statement: an attribute in no namespace has no name with one
colon. -/
namespace DroidAudit.Xml

def Name.Resolved (n : Name) : Prop := n.space = "" → n.part.toList.count ':' ≠ 1

def Element.Resolved (e : Element) : Prop := ∀ d ∈ e.all, ∀ a ∈ d.attributes, a.name.Resolved

theorem not_colon_of_continuesName {c : Char} (h : continuesName c = true) : c ≠ ':' := by
  rintro rfl
  exact absurd h (by decide)

theorem IsPart.not_colon {s : String} (h : IsPart s) : ':' ∉ s.toList := fun hmem =>
  not_colon_of_continuesName (h.2 ':' hmem) rfl

theorem Element.Sound.resolved {w : Way} {e : Element} (h : e.Sound w) : e.Resolved := by
  intro d hd a ha _
  have hcolon := ((h.of_mem_all hd).attributes a ha).name.part.not_colon
  simp [List.count_eq_zero_of_not_mem hcolon]

theorem read_resolved (w : Way) (bytes : ByteArray) : Yields Element.Resolved (read w bytes) :=
  fun root hroot => (read_sound w bytes root hroot).resolved

/-- No element below has an attribute in no namespace whose name has one colon. -/
theorem Element.Resolved.plainAttribute?_eq_none {root e : Element} {part : String}
    (h : root.Resolved) (he : e ∈ root.descendants) (hpart : part.toList.count ':' = 1) :
    e.plainAttribute? part = none := by
  have hall : e ∈ root.all := by
    cases root with
    | mk name attributes text children => exact List.mem_cons_of_mem _ he
  rw [Element.plainAttribute?, Option.map_eq_none_iff, List.find?_eq_none]
  intro a ha hplain
  rw [Name.isPlain, Bool.and_eq_true, String.isEmpty_iff, beq_iff_eq] at hplain
  refine h e hall a ha hplain.1 ?_
  rw [hplain.2, hpart]

end DroidAudit.Xml
