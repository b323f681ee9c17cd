import DroidAudit.Proofs.PlainPath
import DroidAudit.Proofs.WrittenText

/-! Documents of the characters that a document keeps. The bytes of any text have no fault, and the
document that is read from the bytes is the one of the characters. -/
namespace DroidAudit

namespace Text

theorem toList_loop (bytes : ByteArray) (i : Nat) (done : List UInt8) :
    ByteArray.toList.loop bytes i done = done.reverse ++ bytes.data.toList.drop i := by
  rw [ByteArray.toList.loop]
  split
  · rename_i hi
    have hlength : i < bytes.data.toList.length := by rwa [Array.length_toList]
    have hget : bytes.get! i = bytes.data.toList[i] := by simp [ByteArray.get!, hi]
    rw [toList_loop, List.drop_eq_getElem_cons hlength, hget]
    simp
  · rename_i hi
    have hdrop : bytes.data.toList.drop i = [] := by
      rw [List.drop_eq_nil_iff, Array.length_toList]
      exact Nat.le_of_not_lt hi
    rw [hdrop, List.append_nil]
  termination_by bytes.size - i

theorem toList_eq_data (bytes : ByteArray) : bytes.toList = bytes.data.toList := by
  rw [ByteArray.toList, toList_loop]
  simp

theorem fromUTF8?_toUTF8 (s : String) : String.fromUTF8? s.toUTF8 = some s := by
  have hvalid : s.toUTF8.IsValidUTF8 := s.isValidUTF8
  simp only [String.fromUTF8?, hvalid, dif_pos]
  rfl

theorem utf8Chars_toUTF8 (s : String) : utf8Chars s.toUTF8.toList = s.toList := by
  rw [utf8Chars, toList_eq_data, Array.toArray_toList, fromUTF8?_toUTF8]
  rfl

theorem data_toUTF8 (s : String) :
    s.toUTF8.data.toList = s.toList.flatMap String.utf8EncodeChar := by
  rw [String.toUTF8_eq_toByteArray, ← String.utf8Encode_toList]
  simp [List.utf8Encode]

theorem toList_toUTF8 (s : String) : s.toUTF8.toList = s.toList.flatMap String.utf8EncodeChar := by
  rw [toList_eq_data, data_toUTF8]

/-! Bytes without a fault. -/

theorem utf8FaultFrom_skip (front rest : List UInt8) (place : Nat) :
    utf8FaultFrom place front.length (front ++ rest) =
      utf8FaultFrom (place + front.length) 0 rest := by
  induction front generalizing place with
  | nil => rfl
  | cons b front ih =>
    rw [List.cons_append, List.length_cons, utf8FaultFrom, ih]
    congr 1
    omega

theorem goodFollowers_append {front : List UInt8} (h : ∀ b ∈ front, 0x80 ≤ b ∧ b ≤ 0xBF)
    (rest : List UInt8) : (goodFollowers front.length 0x80 0xBF (front ++ rest)).1 = front.length := by
  induction front with
  | nil => rfl
  | cons b front ih =>
    obtain ⟨hlow, hhigh⟩ := h b (by simp)
    have hrest := ih fun d hd => h d (by simp [hd])
    simp [goodFollowers, hlow, hhigh, hrest]

theorem utf8FaultFrom_lead {lead b low high : UInt8} {front : List UInt8} (hlead : ¬lead < 0x80)
    (hfollowers : followers lead = some (front.length + 1, low, high)) (hlow : low ≤ b)
    (hhigh : b ≤ high) (hfront : ∀ d ∈ front, 0x80 ≤ d ∧ d ≤ 0xBF) (rest : List UInt8)
    (place : Nat) :
    utf8FaultFrom place 0 (lead :: b :: front ++ rest) =
      utf8FaultFrom (place + (lead :: b :: front).length) 0 rest := by
  have hgood := goodFollowers_append hfront rest
  have hskip := utf8FaultFrom_skip (b :: front) rest (place + 1)
  simp only [List.length_cons, List.cons_append] at hskip ⊢
  rw [utf8FaultFrom, if_neg hlead, hfollowers]
  simp only [goodFollowers, hlow, hhigh, decide_true, Bool.and_self, if_true, hgood,
    beq_self_eq_true, hskip]
  congr 1
  omega

theorem followers_two : ∀ k < 32, 2 ≤ k → followers (UInt8.ofNat (k + 192)) = some (1, 0x80, 0xBF) := by
  decide

theorem followers_three : ∀ k < 16, followers (UInt8.ofNat (k + 224)) =
    some (2, if k = 0 then 0xA0 else 0x80, if k = 13 then 0x9F else 0xBF) := by
  decide

theorem followers_four : ∀ k < 5, followers (UInt8.ofNat (k + 240)) =
    some (3, if k = 0 then 0x90 else 0x80, if k = 4 then 0x8F else 0xBF) := by
  decide

theorem ofNat_le_ofNat {m n : Nat} (hn : n < 256) (h : m ≤ n) : UInt8.ofNat m ≤ UInt8.ofNat n := by
  rw [UInt8.le_iff_toNat_le, UInt8.toNat_ofNat', UInt8.toNat_ofNat']
  change m % 256 ≤ n % 256
  omega

theorem follower_range (n : Nat) :
    0x80 ≤ UInt8.ofNat (n % 64 + 128) ∧ UInt8.ofNat (n % 64 + 128) ≤ 0xBF :=
  ⟨ofNat_le_ofNat (m := 128) (by omega) (by omega), ofNat_le_ofNat (n := 191) (by omega) (by omega)⟩

theorem lead_not_lt {n : Nat} (hlow : 128 ≤ n) (hhigh : n < 256) : ¬UInt8.ofNat n < 0x80 := by
  rw [UInt8.lt_iff_toNat_lt, UInt8.toNat_ofNat']
  change ¬n % 256 < 128
  omega

/-- The bytes of a character: one low byte, or a leading byte with its followers. What may follow
the first of them depends on it, for no character has two forms and halves of pairs have none. -/
theorem encodeChar_cases (c : Char) :
    (∃ b, String.utf8EncodeChar c = [b] ∧ b < 0x80) ∨
    ∃ lead b front low high, String.utf8EncodeChar c = lead :: b :: front ∧ ¬lead < 0x80 ∧
      followers lead = some (front.length + 1, low, high) ∧ low ≤ b ∧ b ≤ high ∧
      ∀ d ∈ front, 0x80 ≤ d ∧ d ≤ 0xBF := by
  have hvalid : c.val.toNat < 0xD800 ∨ 0xDFFF < c.val.toNat ∧ c.val.toNat < 0x110000 := c.valid
  rw [String.utf8EncodeChar]
  generalize c.val.toNat = v at hvalid
  split
  · rename_i hone
    refine .inl ⟨_, rfl, ?_⟩
    rw [UInt8.lt_iff_toNat_lt, UInt8.toNat_ofNat']
    change v % 256 < 128
    omega
  split
  · exact .inr ⟨_, _, _, _, _, rfl, lead_not_lt (by omega) (by omega),
      followers_two _ (by omega) (by omega), (follower_range v).1, (follower_range v).2, by simp⟩
  split
  · have hlast : ∀ d ∈ [UInt8.ofNat (v % 64 + 128)], 0x80 ≤ d ∧ d ≤ 0xBF :=
      List.forall_mem_singleton.mpr (follower_range v)
    refine .inr ⟨_, _, _, _, _, rfl, lead_not_lt (by omega) (by omega),
      followers_three _ (by omega), ?_, ?_, hlast⟩
    · split
      · exact ofNat_le_ofNat (m := 160) (by omega) (by omega)
      · exact (follower_range _).1
    · split
      · exact ofNat_le_ofNat (n := 159) (by omega) (by omega)
      · exact (follower_range _).2
  · have hlast : ∀ d ∈ [UInt8.ofNat (v / 64 % 64 + 128), UInt8.ofNat (v % 64 + 128)],
        0x80 ≤ d ∧ d ≤ 0xBF :=
      List.forall_mem_cons.mpr ⟨follower_range _, List.forall_mem_singleton.mpr (follower_range v)⟩
    refine .inr ⟨_, _, _, _, _, rfl, lead_not_lt (by omega) (by omega),
      followers_four _ (by omega), ?_, ?_, hlast⟩
    · split
      · exact ofNat_le_ofNat (m := 144) (by omega) (by omega)
      · exact (follower_range _).1
    · split
      · exact ofNat_le_ofNat (n := 143) (by omega) (by omega)
      · exact (follower_range _).2

theorem utf8FaultFrom_char (c : Char) (rest : List UInt8) (place : Nat) :
    utf8FaultFrom place 0 (String.utf8EncodeChar c ++ rest) =
      utf8FaultFrom (place + (String.utf8EncodeChar c).length) 0 rest := by
  rcases encodeChar_cases c with ⟨b, hc, hlow⟩ |
    ⟨lead, b, front, low, high, hc, hlead, hfollowers, hlow, hhigh, hfront⟩
  · rw [hc, List.singleton_append, utf8FaultFrom, if_pos hlow]
    rfl
  · rw [hc]
    exact utf8FaultFrom_lead hlead hfollowers hlow hhigh hfront rest place

theorem utf8FaultFrom_chars (cs : List Char) (rest : List UInt8) (place : Nat) :
    utf8FaultFrom place 0 (cs.flatMap String.utf8EncodeChar ++ rest) =
      utf8FaultFrom (place + (cs.flatMap String.utf8EncodeChar).length) 0 rest := by
  induction cs generalizing place with
  | nil => rfl
  | cons c cs ih =>
    rw [List.flatMap_cons, List.append_assoc, utf8FaultFrom_char, ih, List.length_append,
      Nat.add_assoc]

theorem utf8FaultFrom_toUTF8 (s : String) (place : Nat) :
    utf8FaultFrom place 0 s.toUTF8.toList = none := by
  rw [toList_toUTF8, ← List.append_nil (s.toList.flatMap _), utf8FaultFrom_chars]
  rfl

theorem unifyNewlines_of_not_mem {cs : List Char} (h : '\r' ∉ cs) : unifyNewlines cs = cs := by
  induction cs with
  | nil => rfl
  | cons c cs ih =>
    simp only [List.mem_cons, not_or] at h
    have hc : c ≠ '\r' := Ne.symm h.1
    rw [unifyNewlines]
    · rw [ih h.2]
    all_goals simp [hc]

theorem plainText?_toUTF8 {s : String} (hplain : isPlain s = true) (hreturn : '\r' ∉ s.toList) :
    plainText? s.toUTF8 = some s := by
  have hfault : utf8Fault s.toUTF8 = none := utf8FaultFrom_toUTF8 s 0
  rw [plainText?, hfault, fromUTF8?_toUTF8, Option.filter_some, if_pos hplain, Option.map_some,
    unifyNewlines_of_not_mem hreturn, String.ofList_toList]
  rfl

theorem encodeFault?_ofChars (cs : List Char) :
    encodeFault? (String.ofList (ofChars cs)) = none := by
  rw [encodeFault?, String.toList_ofList, points_ofChars]
  generalize 0 = place
  induction cs generalizing place with
  | nil => rfl
  | cons c cs ih =>
    have hvalid : c.toNat < 0xD800 ∨ 0xDFFF < c.toNat ∧ c.toNat < 0x110000 := c.valid
    have hhalf : isHalf c.toNat = false := by
      simp only [isHalf, isHigh, isLow, Bool.or_eq_false_iff, Bool.and_eq_false_iff,
        decide_eq_false_iff_not]
      omega
    rw [List.map_cons, encodeFaultFrom, hhalf]
    exact ih _

theorem pointBytes_toNat (c : Char) : pointBytes c.toNat = String.utf8EncodeChar c := by
  have hvalid : c.toNat < 0xD800 ∨ 0xDFFF < c.toNat ∧ c.toNat < 0x110000 := c.valid
  have hbyte : isByte c.toNat = false := by
    simp only [isByte, Bool.and_eq_false_iff, decide_eq_false_iff_not]
    omega
  rw [pointBytes, hbyte, Char.ofNat_toNat]
  rfl

theorem encoded_ofChars (cs : List Char) :
    encoded (String.ofList (ofChars cs)) = (String.ofList cs).toUTF8 := by
  have hbytes : (⟨(cs.flatMap String.utf8EncodeChar).toArray⟩ : ByteArray) =
      (String.ofList cs).toUTF8 := by
    rw [← String.toList_ofList (l := cs), ← data_toUTF8, String.toList_ofList]
  cases hany : cs.any isReserved with
  | false =>
    have hself : ofChars cs = cs := by simp [ofChars, hany]
    rw [hself]
    exact encoded_of_isPlain (by simp [isPlain, hany])
  | true =>
    have hreserved : (String.ofList (ofChars cs)).any isReserved = true := by
      obtain ⟨c, hc, hreserved⟩ := List.any_eq_true.mp hany
      rw [any_eq_any_toList, String.toList_ofList, ofChars_eq_flatMap, List.any_eq_true]
      exact ⟨c, List.mem_flatMap.mpr ⟨c, hc, by simp [ofChar, hreserved]⟩, hreserved⟩
    rw [encoded, if_pos hreserved, String.toList_ofList, points_ofChars, List.flatMap_map, ← hbytes]
    simp only [pointBytes_toNat]

end Text

namespace Xml

theorem ofChars_of_kept {cs : List Char} (h : ∀ c ∈ cs, isLegal c = true ∧ c ≠ '\r') :
    Source.ofChars cs .whole = { chars := cs, ending := .whole } := by
  have hlegal : cs.takeWhile isLegal = cs := by
    have htake : (cs ++ []).takeWhile isLegal = cs ++ [].takeWhile isLegal :=
      List.takeWhile_append_of_pos fun c hc => (h c hc).1
    simpa using htake
  have hreturn : '\r' ∉ cs := fun hmem => (h '\r' hmem).2 rfl
  have hlast : (cs.getLast? == some '\r') = false := by
    rw [beq_eq_false_iff_ne]
    exact fun heq => hreturn (List.mem_of_getLast? heq)
  simp [Source.ofChars, hlegal, Text.unifyNewlines_of_not_mem hreturn, hlast]

theorem Source.run_ok {α : Type} (s : Source) (a : α) : s.run (.ok a) = .ok a := rfl

theorem declaration_of_tag {c : Char} (h : c ≠ '?') (cs : List Char) :
    declaration ('<' :: c :: cs) = .ok ({}, '<' :: c :: cs) := by
  have hafter : Text.after? "<?xml".toList ('<' :: c :: cs) = none := by
    simp [Text.after?, h.symm]
  rw [declaration, hafter]

theorem sourceOf_of_kept {s : String} {c : Char} {cs : List Char} (hs : s.toList = '<' :: c :: cs)
    (hc : c.toNat < 128) (h : ∀ d ∈ s.toList, isLegal d = true ∧ d ≠ '\r') {front : Declaration}
    {rest : List Char} (hfront : declaration s.toList = .ok (front, rest))
    (hencoding : ∀ e, front.encoding = some e → KnownEncoding.ofName? e.1 = some .utf8) :
    sourceOf s.toUTF8.toList = .ok { chars := s.toList, ending := .whole } := by
  have hutf8 : utf8Source s.toUTF8.toList = { chars := s.toList, ending := .whole } := by
    rw [utf8Source, Text.utf8FaultFrom_toUTF8]
    simp only [Text.utf8Chars_toUTF8, ofChars_of_kept h]
  have height : eightBitSource false s.toUTF8.toList =
      .ok { chars := s.toList, ending := .whole } := by
    simp only [eightBitSource, hutf8, hfront, Source.run_ok, bind, Except.bind]
    cases hnamed : front.encoding with
    | none => rfl
    | some e => simp only [hencoding e hnamed]
  have hbytes : s.toUTF8.toList = 0x3C :: UInt8.ofNat c.toNat ::
      cs.flatMap String.utf8EncodeChar := by
    have hlow : String.utf8EncodeChar c = [UInt8.ofNat c.toNat] := if_pos (Nat.le_of_lt_succ hc)
    rw [Text.toList_toUTF8, hs, List.flatMap_cons, List.flatMap_cons, hlow]
    rfl
  have hzero : UInt8.ofNat c.toNat ≠ 0 := by
    intro heq
    have hmod : c.toNat % 256 = 0 := by
      rw [← UInt8.toNat_ofNat', heq]
      rfl
    have hnat : c.toNat = 0 := by omega
    have hlegal := (h c (by simp [hs])).1
    rw [← Char.ofNat_toNat c, hnat] at hlegal
    exact absurd hlegal (by decide)
  rw [hbytes] at height ⊢
  rw [sourceOf]
  · exact height
  all_goals simp [hzero]

theorem read_of_kept {s : String} {c : Char} {cs : List Char} (hs : s.toList = '<' :: c :: cs)
    (hc : c.toNat < 128) (h : ∀ d ∈ s.toList, isLegal d = true ∧ d ≠ '\r') {front : Declaration}
    {rest : List Char} (hfront : declaration s.toList = .ok (front, rest))
    (hencoding : ∀ e, front.encoding = some e → KnownEncoding.ofName? e.1 = some .utf8)
    {root : Element} (hroot : documentOf .tree front.standalone rest = .ok root) :
    read .tree s.toUTF8 = .ok root := by
  rw [read, sourceOf_of_kept hs hc h hfront hencoding]
  simp only [bind, Except.bind, hfront, hroot, Source.run_ok]

end Xml
end DroidAudit
