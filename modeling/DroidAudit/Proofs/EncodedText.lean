import DroidAudit.Proofs.KeptSource

/-! Bytes without a fault are the bytes of a text. What follows a leading byte is restricted so that
exactly the forms of characters pass, and each passes in one way only. -/
namespace DroidAudit.Text

/-- Bytes that are the form of a code point, in numbers. -/
def IsForm (point : Nat) (form : List Nat) : Prop :=
  form =
    if point < 0x80 then [point]
    else if point < 0x800 then [point / 64 + 192, point % 64 + 128]
    else if point < 0x10000 then [point / 4096 + 224, point / 64 % 64 + 128, point % 64 + 128]
    else [point / 262144 + 240, point / 4096 % 64 + 128, point / 64 % 64 + 128, point % 64 + 128]

variable {bytes : List UInt8} {high low : UInt8} {n b lead : Nat}

theorem exists_char_of_isForm {point : Nat} (hvalid : point.isValidChar)
    (hform : IsForm point (bytes.map UInt8.toNat)) :
    ∃ c : Char, String.utf8EncodeChar c = bytes := by
  have hsize : point < 0xD800 ∨ 0xDFFF < point ∧ point < 0x110000 := hvalid
  have hval : (Char.ofNatAux point hvalid).val.toNat = point := rfl
  refine ⟨Char.ofNatAux point hvalid,
    (List.map_inj_right fun a b => UInt8.toNat.inj).mp ?_⟩
  rw [hform, String.utf8EncodeChar, hval]
  have hbyte : ∀ n : Nat, n < 256 → (UInt8.ofNat n).toNat = n := fun n hn => by
    rw [UInt8.toNat_ofNat']
    exact Nat.mod_eq_of_lt hn
  by_cases hone : point < 0x80
  · rw [if_pos (by omega), if_pos hone, List.map_singleton, hbyte point (by omega)]
  by_cases htwo : point < 0x800
  · rw [if_neg (by omega), if_pos (by omega), if_neg hone, if_pos htwo]
    simp only [List.map_cons, List.map_nil]
    rw [hbyte _ (by omega), hbyte _ (by omega), Nat.mod_eq_of_lt (b := 32) (by omega)]
  by_cases hthree : point < 0x10000
  · rw [if_neg (by omega), if_neg (by omega), if_pos (by omega), if_neg hone, if_neg htwo,
      if_pos hthree]
    simp only [List.map_cons, List.map_nil]
    rw [hbyte _ (by omega), hbyte _ (by omega), hbyte _ (by omega),
      Nat.mod_eq_of_lt (b := 16) (by omega)]
  · rw [if_neg (by omega), if_neg (by omega), if_neg (by omega), if_neg hone, if_neg htwo,
      if_neg hthree]
    simp only [List.map_cons, List.map_nil]
    rw [hbyte _ (by omega), hbyte _ (by omega), hbyte _ (by omega), hbyte _ (by omega),
      Nat.mod_eq_of_lt (b := 8) (by omega)]

theorem followers_cases {lead : UInt8} (h : followers lead = some (n, low, high)) :
    (n = 1 ∧ 0xC2 ≤ lead.toNat ∧ lead.toNat < 0xE0 ∧ low.toNat = 0x80 ∧ high.toNat = 0xBF) ∨
    (n = 2 ∧ 0xE0 ≤ lead.toNat ∧ lead.toNat < 0xF0 ∧
      low.toNat = (if lead.toNat = 0xE0 then 0xA0 else 0x80) ∧
      high.toNat = if lead.toNat = 0xED then 0x9F else 0xBF) ∨
    (n = 3 ∧ 0xF0 ≤ lead.toNat ∧ lead.toNat < 0xF5 ∧
      low.toNat = (if lead.toNat = 0xF0 then 0x90 else 0x80) ∧
      high.toNat = if lead.toNat = 0xF4 then 0x8F else 0xBF) := by
  have hnat : ∀ k : UInt8,
      (lead < k ↔ lead.toNat < k.toNat) ∧ ((lead == k) = true ↔ lead.toNat = k.toNat) :=
    fun k => ⟨UInt8.lt_iff_toNat_lt, by rw [beq_iff_eq, UInt8.toNat_inj]⟩
  simp only [followers, hnat] at h
  change (if lead.toNat < 0xC2 then none
    else if lead.toNat < 0xE0 then some (1, 0x80, 0xBF)
    else if lead.toNat = 0xE0 then some (2, 0xA0, 0xBF)
    else if lead.toNat = 0xED then some (2, 0x80, 0x9F)
    else if lead.toNat < 0xF0 then some (2, 0x80, 0xBF)
    else if lead.toNat = 0xF0 then some (3, 0x90, 0xBF)
    else if lead.toNat < 0xF4 then some (3, 0x80, 0xBF)
    else if lead.toNat = 0xF4 then some (3, 0x80, 0x8F)
    else none) = some (n, low, high) at h
  repeat' split at h
  all_goals cases h
  all_goals grind

theorem of_goodFollowers_succ (h : (goodFollowers (n + 1) low high bytes).1 = n + 1) :
    ∃ b rest, bytes = b :: rest ∧ low ≤ b ∧ b ≤ high ∧ (goodFollowers n 0x80 0xBF rest).1 = n := by
  cases bytes with
  | nil => simp [goodFollowers] at h
  | cons b rest =>
    rw [goodFollowers] at h
    split at h
    · rename_i hrange
      simp only [Bool.and_eq_true, decide_eq_true_eq] at hrange
      exact ⟨b, rest, rfl, hrange.1, hrange.2, Nat.succ.inj h⟩
    · cases h

theorem of_goodFollowers (h : (goodFollowers n 0x80 0xBF bytes).1 = n) :
    ∃ front rest, bytes = front ++ rest ∧ front.length = n ∧ ∀ d ∈ front, 0x80 ≤ d ∧ d ≤ 0xBF := by
  induction n generalizing bytes with
  | zero => exact ⟨[], bytes, rfl, rfl, by simp⟩
  | succ n ih =>
    obtain ⟨b, rest, rfl, hlow, hhigh, hmore⟩ := of_goodFollowers_succ h
    obtain ⟨front, rest, rfl, hlength, hfront⟩ := ih hmore
    exact ⟨b :: front, rest, rfl, by simp [hlength],
      List.forall_mem_cons.mpr ⟨⟨hlow, hhigh⟩, hfront⟩⟩

/-! The least point of each length, the surrogates and the last point bound the second byte only. -/

theorem isForm_two (hlead : 0xC2 ≤ lead ∧ lead < 0xE0) (hb : 0x80 ≤ b ∧ b ≤ 0xBF) :
    ∃ point : Nat, point.isValidChar ∧ IsForm point [lead, b] := by
  refine ⟨(lead - 192) * 64 + (b - 128), Or.inl (by omega), ?_⟩
  rw [IsForm, if_neg (by omega), if_pos (by omega)]
  simp only [List.cons.injEq, and_true]
  omega

theorem isForm_three {d : Nat} (hlead : 0xE0 ≤ lead ∧ lead < 0xF0)
    (hb : 0x80 ≤ b ∧ b ≤ 0xBF) (hlow : lead = 0xE0 → 0xA0 ≤ b) (hhigh : lead = 0xED → b ≤ 0x9F)
    (hd : 0x80 ≤ d ∧ d ≤ 0xBF) :
    ∃ point : Nat, point.isValidChar ∧ IsForm point [lead, b, d] := by
  refine ⟨(lead - 224) * 4096 + (b - 128) * 64 + (d - 128), ?_, ?_⟩
  · rw [Nat.isValidChar]
    omega
  · rw [IsForm, if_neg (by omega), if_neg (by omega), if_pos (by omega)]
    simp only [List.cons.injEq, and_true]
    omega

theorem isForm_four {d e : Nat} (hlead : 0xF0 ≤ lead ∧ lead < 0xF5)
    (hb : 0x80 ≤ b ∧ b ≤ 0xBF) (hlow : lead = 0xF0 → 0x90 ≤ b) (hhigh : lead = 0xF4 → b ≤ 0x8F)
    (hd : 0x80 ≤ d ∧ d ≤ 0xBF) (he : 0x80 ≤ e ∧ e ≤ 0xBF) :
    ∃ point : Nat, point.isValidChar ∧ IsForm point [lead, b, d, e] := by
  refine ⟨(lead - 240) * 262144 + (b - 128) * 4096 + (d - 128) * 64 + (e - 128), ?_, ?_⟩
  · rw [Nat.isValidChar]
    omega
  · rw [IsForm, if_neg (by omega), if_neg (by omega), if_neg (by omega)]
    simp only [List.cons.injEq, and_true]
    omega

theorem exists_char_of_lead {lead b : UInt8} {front : List UInt8}
    (h : followers lead = some (front.length + 1, low, high)) (hlow : low ≤ b) (hhigh : b ≤ high)
    (hfront : ∀ d ∈ front, 0x80 ≤ d ∧ d ≤ 0xBF) :
    ∃ c : Char, String.utf8EncodeChar c = lead :: b :: front := by
  have hnat : ∀ d : UInt8, 0x80 ≤ d ∧ d ≤ 0xBF ↔ 0x80 ≤ d.toNat ∧ d.toNat ≤ 0xBF := fun d => by
    rw [UInt8.le_iff_toNat_le, UInt8.le_iff_toNat_le]
    rfl
  simp only [hnat] at hfront
  rw [UInt8.le_iff_toNat_le] at hlow hhigh
  suffices hform : ∃ point : Nat, point.isValidChar ∧
      IsForm point ((lead :: b :: front).map UInt8.toNat) by
    obtain ⟨point, hvalid, hform⟩ := hform
    exact exists_char_of_isForm hvalid hform
  rcases followers_cases h with ⟨hlength, hleast, hmost, hlo, hhi⟩ |
    ⟨hlength, hleast, hmost, hlo, hhi⟩ | ⟨hlength, hleast, hmost, hlo, hhi⟩
  · obtain rfl : front = [] := List.eq_nil_of_length_eq_zero (by omega)
    exact isForm_two ⟨hleast, hmost⟩ (by omega)
  · obtain ⟨d, rfl⟩ : ∃ d, front = [d] := List.length_eq_one_iff.mp (by omega)
    have hd := hfront d (by simp)
    rw [hlo] at hlow
    rw [hhi] at hhigh
    exact isForm_three ⟨hleast, hmost⟩ (by grind) (by grind) (by grind) hd
  · obtain ⟨d, e, rfl⟩ : ∃ d e, front = [d, e] := by
      match front, hlength with
      | [d, e], _ => exact ⟨d, e, rfl⟩
    have hd := hfront d (by simp)
    have he := hfront e (by simp)
    rw [hlo] at hlow
    rw [hhi] at hhigh
    exact isForm_four ⟨hleast, hmost⟩ (by grind) (by grind) (by grind) hd he

/-- What is passed begins with the form of a character, and behind it all is passed again. -/
theorem exists_char_of_utf8FaultFrom {b : UInt8} {place : Nat}
    (h : utf8FaultFrom place 0 (b :: bytes) = none) :
    ∃ c rest next, b :: bytes = String.utf8EncodeChar c ++ rest ∧
      utf8FaultFrom next 0 rest = none := by
  by_cases hone : b < 0x80
  · have hsmall : b.toNat < 0x80 := UInt8.lt_iff_toNat_lt.mp hone
    have hform : IsForm b.toNat ([b].map UInt8.toNat) := by
      rw [IsForm, if_pos hsmall]
      rfl
    obtain ⟨c, hc⟩ := exists_char_of_isForm (Or.inl (by omega)) hform
    rw [utf8FaultFrom, if_pos hone] at h
    exact ⟨c, bytes, place + 1, by rw [hc]; rfl, h⟩
  · rw [utf8FaultFrom, if_neg hone] at h
    cases hfollowers : followers b with
    | none => simp [hfollowers] at h
    | some range =>
      obtain ⟨n, low, high⟩ := range
      have hgood : (goodFollowers n low high bytes).1 = n := by
        by_cases hgood : (goodFollowers n low high bytes).1 = n
        · exact hgood
        · simp only [hfollowers, beq_iff_eq, hgood, if_false] at h
          split at h <;> cases h
      obtain ⟨n, rfl⟩ : ∃ k, n = k + 1 := by
        rcases followers_cases hfollowers with ⟨hn, -⟩ | ⟨hn, -⟩ | ⟨hn, -⟩ <;>
          exact ⟨n - 1, by omega⟩
      simp only [hfollowers, hgood, beq_self_eq_true, if_true] at h
      obtain ⟨d, bytes, rfl, hlow, hhigh, hmore⟩ := of_goodFollowers_succ hgood
      obtain ⟨front, rest, rfl, rfl, hfront⟩ := of_goodFollowers hmore
      obtain ⟨c, hc⟩ := exists_char_of_lead hfollowers hlow hhigh hfront
      have hskip := utf8FaultFrom_skip (d :: front) rest (place + 1)
      exact ⟨c, rest, _, by rw [hc]; rfl, hskip.symm.trans h⟩

theorem exists_chars_of_utf8FaultFrom {place : Nat} (h : utf8FaultFrom place 0 bytes = none) :
    ∃ cs : List Char, bytes = cs.flatMap String.utf8EncodeChar := by
  -- a character has at least one byte, so what stands behind it is shorter
  induction hlength : bytes.length using Nat.strongRecOn generalizing bytes place with
  | ind length ih =>
    cases bytes with
    | nil => exact ⟨[], rfl⟩
    | cons b bytes =>
      obtain ⟨c, rest, next, hbytes, hrest⟩ := exists_char_of_utf8FaultFrom h
      have hshorter : rest.length < length := by
        have hpos : 0 < (String.utf8EncodeChar c).length :=
          List.length_pos_iff.mpr (String.utf8EncodeChar_ne_nil)
        rw [← hlength, hbytes, List.length_append]
        omega
      obtain ⟨cs, rfl⟩ := ih rest.length hshorter hrest rfl
      exact ⟨c :: cs, by rw [hbytes, List.flatMap_cons]⟩

theorem utf8Fault_eq_none_iff {bytes : ByteArray} :
    utf8Fault bytes = none ↔ ∃ s : String, bytes = s.toUTF8 := by
  constructor
  · intro h
    obtain ⟨cs, hcs⟩ := exists_chars_of_utf8FaultFrom h
    refine ⟨String.ofList cs, ?_⟩
    rw [toList_eq_data, ← String.toList_ofList (l := cs), ← data_toUTF8] at hcs
    exact ByteArray.ext (Array.toList_inj.mp hcs)
  · rintro ⟨s, rfl⟩
    exact utf8FaultFrom_toUTF8 s 0

end DroidAudit.Text
