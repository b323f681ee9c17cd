import DroidAudit.Proofs.KeptSource

/-! Documents of plain characters: the first 128 without the carriage return, each with one byte. -/
namespace DroidAudit.Xml

def isPlainChar (c : Char) : Bool := c.toNat < 128 && isLegal c && c != '\r'

theorem low_of_plain {cs : List Char} (h : ∀ c ∈ cs, isPlainChar c = true) :
    ∀ c ∈ cs, c.toNat < 128 := by
  intro c hc
  have hplain := h c hc
  simp only [isPlainChar, Bool.and_eq_true, decide_eq_true_eq] at hplain
  exact hplain.1.1

theorem kept_of_plain {cs : List Char} (h : ∀ c ∈ cs, isPlainChar c = true) :
    ∀ c ∈ cs, isLegal c = true ∧ c ≠ '\r' := by
  intro c hc
  have hplain := h c hc
  simp only [isPlainChar, Bool.and_eq_true, bne_iff_ne, ne_eq] at hplain
  exact ⟨hplain.1.2, hplain.2⟩

theorem read_of_plain {s : String} {c : Char} {cs : List Char} (hs : s.toList = '<' :: c :: cs)
    (h : ∀ d ∈ s.toList, isPlainChar d = true) {front : Declaration} {rest : List Char}
    (hfront : declaration s.toList = .ok (front, rest))
    (hencoding : ∀ e, front.encoding = some e → KnownEncoding.ofName? e.1 = some .utf8)
    {root : Element} (hroot : documentOf .tree front.standalone rest = .ok root) :
    read .tree s.toUTF8 = .ok root :=
  read_of_kept hs (low_of_plain h c (by simp [hs])) (kept_of_plain h) hfront hencoding hroot

theorem encoded_of_plain {s : String} (h : ∀ d ∈ s.toList, isPlainChar d = true) :
    Text.encoded s = s.toUTF8 := by
  refine Text.encoded_of_isPlain ?_
  simp only [Text.isPlain, Bool.not_eq_true', List.any_eq_false]
  intro d hd
  simp [Text.isReserved_of_low (low_of_plain h d hd)]

end DroidAudit.Xml
