import DroidAudit.Json.Reader
import DroidAudit.Proofs.CodePoints

/-! Texts and numbers in structured data. What was escaped is read as it was, and digits are read as
the number that they stand for. Only where half of a pair stands directly before the other half, the
two are read as one code point. -/
namespace DroidAudit.Json

/-! Texts. -/

theorem hexValue?_hexDigit {d : Nat} (h : d < 16) : hexValue? (Text.hexDigit d) = some d := by
  have hall : (List.range 16).all (fun d => hexValue? (Text.hexDigit d) == some d) = true := rfl
  simpa using List.all_eq_true.mp hall d (List.mem_range.mpr h)

variable {n : Nat} {rest : List Char}

theorem unit?_hexDigits (h : n < 0x10000) (cs : List Char) :
    unit? (Text.hexDigits 4 n ++ cs) = some (n, cs) := by
  have hdigit (m : Nat) : hexValue? (Text.hexDigit (m % 16)) = some (m % 16) :=
    hexValue?_hexDigit (Nat.mod_lt m (by decide))
  simp only [Text.hexDigits, List.nil_append, List.cons_append, unit?, hdigit, bind, Option.bind]
  congr 2
  omega

/-- Whether the escape of a low half follows. -/
def lowNext : List Char → Bool
  | '\\' :: 'u' :: cs => (unit? cs).any (Text.isLow ·.1)
  | _ => false

theorem pairOr_of_apart (h : (Text.isHigh n && lowNext rest) = false) :
    pairOr n rest = (n, rest) := by
  unfold pairOr
  split
  · rename_i more
    split
    · rename_i m rest' hunit
      have hlow : lowNext ('\\' :: 'u' :: more) = Text.isLow m := by simp [lowNext, hunit]
      rw [hlow] at h
      rw [h]
      rfl
    · rfl
  · rfl

theorem lowNext_unitEscape (h : n < 0x10000) (cs : List Char) :
    lowNext (unitEscape n ++ cs) = Text.isLow n := by
  simp [unitEscape, lowNext, unit?_hexDigits h]

theorem pairOr_unitEscape {high low : Nat} (hhigh : Text.isHigh high = true)
    (hlow : Text.isLow low = true) (rest : List Char) :
    pairOr high (unitEscape low ++ rest) = (Text.pairPoint high low, rest) := by
  have hunit : low < 0x10000 := by
    simp only [Text.isLow, Bool.and_eq_true, decide_eq_true_eq] at hlow
    omega
  simp [unitEscape, pairOr, unit?_hexDigits hunit, hhigh, hlow]

theorem pair_of_point {high low : Nat} (h : n < 0x110000) (hpair : 0x10000 ≤ n)
    (hhigh : 0xd800 + (n - 0x10000) / 0x400 = high) (hlow : 0xdc00 + (n - 0x10000) % 0x400 = low) :
    Text.isHigh high = true ∧ Text.isLow low = true ∧ Text.pairPoint high low = n := by
  simp only [Text.isHigh, Text.isLow, Bool.and_eq_true, decide_eq_true_eq]
  refine ⟨by omega, by omega, ?_⟩
  -- The sum does not depend on the upper bound, which would only send the search deeper.
  clear h
  unfold Text.pairPoint
  omega

/-- A code point is escaped by a letter, stands for itself, or is given by one or two units. -/
theorem escapedPoint_cases (n : Nat) :
    (∃ c e, escapedPoint n = ['\\', c] ∧ c ≠ 'u' ∧ simpleEscape? c = some e ∧
      Text.ofPoint n = [e] ∧ n < 127) ∨
    (escapedPoint n = [Char.ofNat n] ∧ n ≠ 34 ∧ n ≠ 92 ∧ n < 127) ∨
    (escapedPoint n = unitEscape n ∧ n < 0x10000) ∨
    (escapedPoint n = unitEscape (0xd800 + (n - 0x10000) / 0x400) ++
        unitEscape (0xdc00 + (n - 0x10000) % 0x400) ∧ 0x10000 ≤ n) := by
  have hletter (c : Char) {m : Nat} (hm : n = m) (hescape : escapedPoint m = ['\\', c])
      (hc : c ≠ 'u') (e : Char) (he : simpleEscape? c = some e) (hpoint : Text.ofPoint m = [e])
      (hlow : m < 127) : ∃ c e, escapedPoint n = ['\\', c] ∧ c ≠ 'u' ∧ simpleEscape? c = some e ∧
        Text.ofPoint n = [e] ∧ n < 127 :=
    ⟨c, e, hm ▸ hescape, hc, he, hm ▸ hpoint, hm ▸ hlow⟩
  by_cases h34 : n = 34
  · exact .inl (hletter '"' h34 rfl (by decide) '"' rfl rfl (by decide))
  by_cases h92 : n = 92
  · exact .inl (hletter '\\' h92 rfl (by decide) '\\' rfl rfl (by decide))
  by_cases h10 : n = 10
  · exact .inl (hletter 'n' h10 rfl (by decide) '\n' rfl rfl (by decide))
  by_cases h13 : n = 13
  · exact .inl (hletter 'r' h13 rfl (by decide) '\r' rfl rfl (by decide))
  by_cases h9 : n = 9
  · exact .inl (hletter 't' h9 rfl (by decide) '\t' rfl rfl (by decide))
  by_cases h12 : n = 12
  · exact .inl (hletter 'f' h12 rfl (by decide) (Char.ofNat 12) rfl rfl (by decide))
  by_cases h8 : n = 8
  · exact .inl (hletter 'b' h8 rfl (by decide) (Char.ofNat 8) rfl rfl (by decide))
  right
  simp only [escapedPoint, h34, h92, h10, h13, h9, h12, h8, if_false]
  split
  · rename_i hshown
    simp only [Bool.and_eq_true, decide_eq_true_eq] at hshown
    exact .inl ⟨rfl, h34, h92, hshown.2⟩
  split
  · exact .inr (.inl ⟨rfl, ‹_›⟩)
  · exact .inr (.inr ⟨rfl, by omega⟩)

theorem isLow_eq_false (h : n < 0xdc00 ∨ 0xe000 ≤ n) : Text.isLow n = false := by
  simp only [Text.isLow, Bool.and_eq_false_iff, decide_eq_false_iff_not]
  omega

theorem toNat_ofNat_of_low (h : n < 127) : (Char.ofNat n).toNat = n :=
  Text.toNat_ofNat_of_valid (by omega : n < 0xd800 ∨ 0xdfff < n ∧ n < 0x110000)

theorem lowNext_escapedPoint (h : n < 0x110000) (cs : List Char) :
    lowNext (escapedPoint n ++ cs) = Text.isLow n := by
  rcases escapedPoint_cases n with ⟨c, e, hn, hc, -, -, hlow⟩ | ⟨hn, -, h92, hlow⟩ | ⟨hn, hunit⟩ |
    ⟨hn, hpair⟩
  · rw [hn, isLow_eq_false (by omega)]
    simp [lowNext, hc]
  · have hc : Char.ofNat n ≠ '\\' := fun heq => by
      have hnat := congrArg Char.toNat heq
      rw [toNat_ofNat_of_low hlow] at hnat
      exact h92 hnat
    rw [hn, isLow_eq_false (by omega)]
    simp [lowNext, hc]
  · rw [hn, lowNext_unitEscape hunit]
  · rw [hn, List.append_assoc, lowNext_unitEscape (by omega), isLow_eq_false (by omega),
      isLow_eq_false (by omega)]

theorem readText_unitEscape (h : n < 0x10000) (fuel : Nat) (done rest : List Char) :
    readText (fuel + 1) done (unitEscape n ++ rest) =
      readText fuel (Text.push (pairOr n rest).1 done) (pairOr n rest).2 := by
  simp [unitEscape, readText, unit?_hexDigits h]

theorem readText_escapedPoint (h : n < 0x110000)
    (hapart : (Text.isHigh n && lowNext rest) = false) (fuel : Nat) (done : List Char) :
    readText (fuel + 1) done (escapedPoint n ++ rest) = readText fuel (Text.push n done) rest := by
  rcases escapedPoint_cases n with ⟨c, e, hn, hc, he, hpoint, -⟩ | ⟨hn, h34, h92, hlow⟩ |
    ⟨hn, hunit⟩ | ⟨hn, hpair⟩
  · rw [hn, Text.push, hpoint]
    simp [readText, he]
  · have hnat := toNat_ofNat_of_low hlow
    have hquote : Char.ofNat n ≠ '"' := fun heq => h34 (hnat ▸ congrArg Char.toNat heq)
    have hslash : Char.ofNat n ≠ '\\' := fun heq => h92 (hnat ▸ congrArg Char.toNat heq)
    rw [hn, List.singleton_append]
    simp [readText, hquote, hslash, hnat]
  · rw [hn, readText_unitEscape hunit, pairOr_of_apart hapart]
  · generalize hh : 0xd800 + (n - 0x10000) / 0x400 = high at hn
    generalize hl : 0xdc00 + (n - 0x10000) % 0x400 = low at hn
    obtain ⟨hhigh, hlow, hsum⟩ := pair_of_point h hpair hh hl
    have hunit : high < 0x10000 := by
      simp only [Text.isHigh, Bool.and_eq_true, decide_eq_true_eq] at hhigh
      omega
    rw [hn, List.append_assoc, readText_unitEscape hunit, pairOr_unitEscape hhigh hlow, hsum]

/-- No high half stands directly before a low one. -/
def halvesApart : List Nat → Bool
  | m :: n :: ns => !(Text.isHigh m && Text.isLow n) && halvesApart (n :: ns)
  | _ => true

/-- A text as structured data gives it back: what its code points spell, with no half of a pair
directly before the other half. -/
structure IsSettled (s : String) : Prop where
  spelled : Text.IsSpelled s
  apart : halvesApart (Text.points s.toList) = true

theorem readText_points {ns : List Nat} (hns : ∀ n ∈ ns, n < 0x110000)
    (hapart : halvesApart ns = true) (rest : List Char) {fuel : Nat} (hfuel : ns.length < fuel)
    (done : List Char) :
    readText fuel done (ns.flatMap escapedPoint ++ '"' :: rest) =
      some (String.ofList (done.reverse ++ ns.flatMap Text.ofPoint), rest) := by
  induction ns generalizing fuel done with
  | nil =>
    obtain ⟨fuel, rfl⟩ := Nat.exists_eq_succ_of_ne_zero (Nat.ne_of_gt hfuel)
    simp [readText]
  | cons n ns ih =>
    obtain ⟨fuel, rfl⟩ := Nat.exists_eq_succ_of_ne_zero (Nat.ne_of_gt (Nat.zero_lt_of_lt hfuel))
    rw [List.forall_mem_cons] at hns
    have hnext : (Text.isHigh n && lowNext (ns.flatMap escapedPoint ++ '"' :: rest)) = false ∧
        halvesApart ns = true := by
      cases ns with
      | nil => simp [lowNext, halvesApart]
      | cons m ns =>
        rw [halvesApart, Bool.and_eq_true, Bool.not_eq_true'] at hapart
        rw [List.flatMap_cons, List.append_assoc, lowNext_escapedPoint (hns.2 m (by simp))]
        exact hapart
    rw [List.flatMap_cons, List.append_assoc, readText_escapedPoint hns.1 hnext.1,
      ih hns.2 hnext.2 (by simpa using hfuel), Text.push]
    simp

theorem escapedPoint_ne_nil (n : Nat) : escapedPoint n ≠ [] := by
  rcases escapedPoint_cases n with ⟨c, e, hn, -⟩ | ⟨hn, -⟩ | ⟨hn, -⟩ | ⟨hn, -⟩ <;>
    simp [hn, unitEscape]

theorem length_le_flatMap (ns : List Nat) : ns.length ≤ (ns.flatMap escapedPoint).length := by
  induction ns with
  | nil => exact Nat.le_refl _
  | cons n ns ih =>
    have hn := List.length_pos_iff.mpr (escapedPoint_ne_nil n)
    rw [List.flatMap_cons, List.length_append, List.length_cons]
    omega

theorem IsSettled.readText {s : String} (h : IsSettled s) {text : List Char}
    (htext : text = (Text.points s.toList).flatMap escapedPoint ++ '"' :: rest) :
    Json.readText (text.length + 1) [] text = some (s, rest) := by
  have hlength := length_le_flatMap (Text.points s.toList)
  have hspelled : String.ofList ((Text.points s.toList).flatMap Text.ofPoint) = s := by
    rw [h.spelled, String.ofList_toList]
  subst htext
  rw [readText_points (fun n => Text.lt_of_mem_points) h.apart rest
    (by rw [List.length_append]; omega), List.reverse_nil, List.nil_append, hspelled]

/-! Numbers. -/

/-- What follows a value in a layout: nothing, a comma or a new line. -/
def Ends (rest : List Char) : Prop := ∀ c ∈ rest.head?, c = ',' ∨ c = '\n'

theorem naturalOf_eq (ds : List Char) : naturalOf ds = Nat.ofDigitChars 10 ds 0 := rfl

theorem readNumber_digits (negative : Bool) (n : Nat) (h : Ends rest) :
    readNumber negative (Nat.toDigits 10 n ++ rest) =
      some (.int (if negative then -(n : Int) else n), rest) := by
  have hdigits : ∀ c ∈ Nat.toDigits 10 n, c.isDigit = true := fun c hc =>
    Nat.isDigit_of_mem_toDigits (by decide) (by decide) hc
  have hnumber : naturalOf (Nat.toDigits 10 n) = n := by
    rw [naturalOf_eq, Nat.ofDigitChars_ten_toDigits]
  have hne : (Nat.toDigits 10 n).isEmpty = false := by
    simp
  rw [readNumber, List.takeWhile_append_of_pos hdigits, List.dropWhile_append_of_pos hdigits]
  cases rest with
  | nil => simp [hnumber, hne]
  | cons c rest =>
    rcases h c (by simp) with rfl | rfl <;> simp [hnumber, hne]

end DroidAudit.Json
