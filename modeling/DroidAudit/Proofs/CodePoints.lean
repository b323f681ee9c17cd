import DroidAudit.Proofs.KeptSource

/-! Texts and their code points. Every list of code points has one text, halves of pairs among them,
and the text has these code points. A text without halves has bytes, and the bytes are read as the
text. -/
namespace DroidAudit.Text

theorem points_of_ne_mark {c : Char} (h : c ≠ selfMark) (cs : List Char) :
    points (c :: cs) = pointOf c :: points cs := by
  cases cs with
  | nil => rfl
  | cons d cs => simp [points, h]

theorem isHalf_iff (n : Nat) : isHalf n = true ↔ 0xd800 ≤ n ∧ n < 0xe000 := by
  simp only [isHalf, isHigh, isLow, Bool.or_eq_true, Bool.and_eq_true, decide_eq_true_eq]
  omega

theorem toNat_ofNat_of_valid {n : Nat} (h : n.isValidChar) : (Char.ofNat n).toNat = n := by
  rw [Char.ofNat, dif_pos h]
  rfl

theorem toNat_ofNat_of_not_half {n : Nat} (h : n < 0x110000) (hn : isHalf n = false) :
    (Char.ofNat n).toNat = n := by
  rw [← Bool.not_eq_true, isHalf_iff] at hn
  exact toNat_ofNat_of_valid (by omega : n < 0xd800 ∨ 0xdfff < n ∧ n < 0x110000)

theorem toNat_halfChar {n : Nat} (hn : isHalf n = true) : (halfChar n).toNat = 0x100000 + n := by
  rw [isHalf_iff] at hn
  exact toNat_ofNat_of_valid
    (by omega : 0x100000 + n < 0xd800 ∨ 0xdfff < 0x100000 + n ∧ 0x100000 + n < 0x110000)

theorem points_ofPoint {n : Nat} (h : n < 0x110000) (cs : List Char) :
    points (ofPoint n ++ cs) = n :: points cs := by
  cases hn : isHalf n with
  | true =>
    have hnat := toNat_halfChar hn
    have hbounds := (isHalf_iff n).mp hn
    have hmark : halfChar n ≠ selfMark := by
      intro heq
      rw [heq] at hnat
      have : selfMark.toNat = 0x10d7ff := by decide
      omega
    have hreserved : isReserved (halfChar n) = true := by
      simp only [isReserved, hnat, Bool.and_eq_true, decide_eq_true_eq]
      omega
    rw [ofPoint, if_pos hn, List.singleton_append, points_of_ne_mark hmark, pointOf, hreserved]
    simp [hmark, hnat]
  | false =>
    have hnat := toNat_ofNat_of_not_half h hn
    rw [ofPoint, hn, if_neg Bool.false_ne_true, ofChar]
    split
    · simp [points, hnat]
    · rename_i hreserved
      rw [List.singleton_append, points_cons (Bool.eq_false_iff.mpr hreserved), hnat]

theorem points_flatMap {ns : List Nat} (h : ∀ n ∈ ns, n < 0x110000) (cs : List Char) :
    points (ns.flatMap ofPoint ++ cs) = ns ++ points cs := by
  induction ns with
  | nil => rfl
  | cons n ns ih =>
    rw [List.forall_mem_cons] at h
    rw [List.flatMap_cons, List.append_assoc, points_ofPoint h.1, ih h.2, List.cons_append]

theorem points_plain {cs : List Char} (h : ∀ c ∈ cs, isReserved c = false) (ds : List Char) :
    points (cs ++ ds) = cs.map Char.toNat ++ points ds := by
  induction cs with
  | nil => rfl
  | cons c cs ih =>
    rw [List.forall_mem_cons] at h
    rw [List.cons_append, points_cons h.1, ih h.2, List.map_cons, List.cons_append]

theorem lt_of_mem_points {cs : List Char} {n : Nat} (h : n ∈ points cs) : n < 0x110000 := by
  have hchar (c : Char) : c.toNat < 0x110000 := by
    have hvalid : c.toNat < 0xd800 ∨ 0xdfff < c.toNat ∧ c.toNat < 0x110000 := c.valid
    omega
  have hpoint (c : Char) : pointOf c < 0x110000 := by
    have hc := hchar c
    rw [pointOf]
    split <;> omega
  induction cs using points.induct with
  | case1 => cases h
  | case2 c =>
    rw [points, List.mem_singleton] at h
    exact h ▸ hpoint c
  | case3 c d cs hc ih =>
    rw [points, if_pos hc, List.mem_cons] at h
    exact h.elim (· ▸ hchar d) ih
  | case4 c d cs hc ih =>
    rw [points, if_neg hc, List.mem_cons] at h
    exact h.elim (· ▸ hpoint c) ih

/-- A text is what its code points spell: no mark stands where none is needed. -/
def IsSpelled (s : String) : Prop := (points s.toList).flatMap ofPoint = s.toList

theorem encodeFaultFrom_eq_none_iff {passes : Nat → Bool} {ns : List Nat} {place : Nat} :
    encodeFaultFrom passes place ns = none ↔ ∀ n ∈ ns, isHalf n = true → passes n = true := by
  induction ns generalizing place with
  | nil => simp [encodeFaultFrom]
  | cons n ns ih =>
    rw [encodeFaultFrom, List.forall_mem_cons]
    cases hn : isHalf n && !passes n with
    | true =>
      simp only [Bool.and_eq_true, Bool.not_eq_true'] at hn
      simp [hn]
    | false => simpa [ih] using fun _ hhalf => by simpa [hhalf] using hn

theorem encodeFault?_eq_none_iff {s : String} :
    encodeFault? s = none ↔ ∀ n ∈ points s.toList, isHalf n = false := by
  simp [encodeFault?, encodeFaultFrom_eq_none_iff]

theorem pathFault?_eq_none_iff {path : String} :
    pathFault? path = none ↔ ∀ n ∈ points path.toList, isHalf n = true → isByte n = true := by
  rw [pathFault?, encodeFaultFrom_eq_none_iff]

theorem IsSpelled.points_append {s : String} (h : IsSpelled s) (cs : List Char) :
    points (s.toList ++ cs) = points s.toList ++ points cs := by
  have hpoints := points_flatMap (fun n (hn : n ∈ points s.toList) => lt_of_mem_points hn) cs
  rw [IsSpelled] at h
  rwa [h] at hpoints

/-- A text of characters that mean themselves. -/
def IsWhole (s : String) : Prop := ∃ cs, s = String.ofList (ofChars cs)

theorem IsSpelled.isWhole {s : String} (h : IsSpelled s) (hfault : encodeFault? s = none) :
    IsWhole s := by
  rw [encodeFault?_eq_none_iff] at hfault
  have hpoint : ∀ n ∈ points s.toList, ofPoint n = ofChar (Char.ofNat n) := fun n hn => by
    rw [ofPoint, hfault n hn, if_neg Bool.false_ne_true]
  refine ⟨(points s.toList).map Char.ofNat, ?_⟩
  rw [ofChars_eq_flatMap, List.flatMap_map, List.flatMap_def, ← List.map_congr_left hpoint,
    ← List.flatMap_def, h, String.ofList_toList]

theorem IsWhole.append {s t : String} (hs : IsWhole s) (ht : IsWhole t) : IsWhole (s ++ t) := by
  obtain ⟨cs, rfl⟩ := hs
  obtain ⟨ds, rfl⟩ := ht
  exact ⟨cs ++ ds, by rw [ofChars_append, String.ofList_append]⟩

theorem isWhole_of_plain {s : String} (h : ∀ c ∈ s.toList, isReserved c = false) : IsWhole s :=
  ⟨s.toList, by rw [ofChars_of_plain h, String.ofList_toList]⟩

theorem IsWhole.encoded_append {s t : String} (hs : IsWhole s) (ht : IsWhole t) :
    encoded (s ++ t) = encoded s ++ encoded t := by
  obtain ⟨cs, rfl⟩ := hs
  obtain ⟨ds, rfl⟩ := ht
  rw [← String.ofList_append, ← ofChars_append, encoded_ofChars, encoded_ofChars, encoded_ofChars,
    String.ofList_append]
  exact String.toByteArray_append

theorem utf8Fault_toUTF8 (s : String) : utf8Fault s.toUTF8 = none := utf8FaultFrom_toUTF8 s 0

theorem utf8Text_toUTF8 (s : String) : utf8Text s.toUTF8 = String.ofList (ofChars s.toList) := by
  rw [utf8Text, fromUTF8?_toUTF8, Option.getD_some, any_eq_any_toList, ofChars]
  split
  · rfl
  · rw [String.ofList_toList]

end DroidAudit.Text
