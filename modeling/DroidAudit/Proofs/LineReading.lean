import DroidAudit.Proofs.KeptSource

/-! Text that is read in blocks of bytes. A block may end inside of a character, whose bytes then wait
for the next block. Main statement: wherever the blocks end, the lines that are read are those of the
text. -/
namespace DroidAudit.Text

abbrev bytesOfChars (cs : List Char) : List UInt8 := cs.flatMap String.utf8EncodeChar

/-- The front of a character that lacks some of its bytes, or nothing at all. -/
def IsCut (bytes : List UInt8) : Prop :=
  bytes = [] ∨ ∃ c more, String.utf8EncodeChar c = bytes ++ more ∧ bytes ≠ [] ∧ more ≠ []

theorem goodFollowers_short {n : Nat} {front : List UInt8} (hlength : front.length < n)
    (hfront : ∀ d ∈ front, 0x80 ≤ d ∧ d ≤ 0xBF) :
    goodFollowers n 0x80 0xBF front = (front.length, true) := by
  induction front generalizing n with
  | nil =>
    cases n with
    | zero => simp at hlength
    | succ n => rfl
  | cons b front ih =>
    cases n with
    | zero => simp at hlength
    | succ n =>
      obtain ⟨⟨hlow, hhigh⟩, hrest⟩ := List.forall_mem_cons.mp hfront
      rw [goodFollowers, ih (Nat.lt_of_succ_lt_succ hlength) hrest]
      simp [hlow, hhigh]

/-- What is missing at the end shows as a fault at the leading byte. -/
theorem utf8FaultFrom_cut {bytes more : List UInt8} {c : Char}
    (hc : String.utf8EncodeChar c = bytes ++ more) (hbytes : bytes ≠ []) (hmore : more ≠ [])
    (place : Nat) :
    ∃ f, utf8FaultFrom place 0 bytes = some f ∧ f.start = place ∧
      f.reason = "unexpected end of data" := by
  cases bytes with
  | nil => exact absurd rfl hbytes
  | cons first given =>
    have hlength : 0 < more.length := List.length_pos_iff.mpr hmore
    rcases encodeChar_cases c with ⟨b, hone, -⟩ |
      ⟨lead, b, front, low, high, hform, hlead, hfollowers, hlow, hhigh, hfront⟩
    · rw [hc, List.cons_append, List.cons.injEq, List.append_eq_nil_iff] at hone
      exact absurd hone.2.2 hmore
    · rw [hc, List.cons_append, List.cons.injEq] at hform
      obtain ⟨rfl, hform⟩ := hform
      have hshort : goodFollowers (front.length + 1) low high given = (given.length, true) := by
        cases given with
        | nil => rfl
        | cons d given =>
          rw [List.cons_append, List.cons.injEq] at hform
          obtain ⟨rfl, rfl⟩ := hform
          have hgiven : given.length < (given ++ more).length := by
            rw [List.length_append]
            omega
          have hgood := goodFollowers_short hgiven fun d hd =>
            hfront d (List.mem_append_left _ hd)
          rw [goodFollowers, hgood]
          simp [hlow, hhigh]
      have hlacks : (given.length == front.length + 1) = false := by
        have := congrArg List.length hform
        rw [List.length_append, List.length_cons] at this
        simp
        omega
      refine ⟨⟨first, place, place + 1 + given.length, "unexpected end of data"⟩, ?_, rfl, rfl⟩
      rw [utf8FaultFrom, if_neg hlead, hfollowers]
      simp only [hshort, hlacks, Bool.false_eq_true, if_false, if_true]

theorem utf8Chars_bytesOfChars (cs : List Char) : utf8Chars (bytesOfChars cs) = cs := by
  have h := utf8Chars_toUTF8 (String.ofList cs)
  rwa [toList_toUTF8, String.toList_ofList] at h

theorem utf8Step_block (cs : List Char) {cut : List UInt8} (hcut : IsCut cut) :
    utf8Step false (bytesOfChars cs ++ cut) = some (ofChars cs, cut) := by
  rcases hcut with rfl | ⟨c, more, hc, hne, hmore⟩
  · rw [utf8Step, utf8FaultFrom_chars, utf8FaultFrom, List.append_nil, utf8Chars_bytesOfChars]
  · obtain ⟨f, hfault, hstart, hreason⟩ :=
      utf8FaultFrom_cut hc hne hmore (0 + (bytesOfChars cs).length)
    rw [utf8Step, utf8FaultFrom_chars, hfault]
    rw [Nat.zero_add] at hstart
    simp [hstart, hreason, utf8Chars_bytesOfChars]

theorem utf8Step_end (cs : List Char) :
    utf8Step true (bytesOfChars cs) = some (ofChars cs, []) := by
  rw [utf8Step, ← List.append_nil (bytesOfChars cs), utf8FaultFrom_chars, utf8FaultFrom,
    List.append_nil, utf8Chars_bytesOfChars]

theorem exists_cut {cs : List Char} {front rest : List UInt8} (h : front ++ rest = bytesOfChars cs) :
    ∃ before after cut, cs = before ++ after ∧ front = bytesOfChars before ++ cut ∧ IsCut cut ∧
      cut ++ rest = bytesOfChars after := by
  induction cs generalizing front with
  | nil =>
    obtain ⟨rfl, rfl⟩ := List.append_eq_nil_iff.mp h
    exact ⟨[], [], [], rfl, rfl, .inl rfl, rfl⟩
  | cons c cs ih =>
    rw [bytesOfChars, List.flatMap_cons] at h
    rcases List.append_eq_append_iff.mp h with ⟨more, hmore, hrest⟩ | ⟨front, rfl, hfront⟩
    -- the division falls into the first character, or behind it
    · by_cases hwhole : more = []
      · rw [hwhole, List.append_nil] at hmore
        rw [hwhole, List.nil_append] at hrest
        exact ⟨[c], cs, [], rfl, by simp [hmore], .inl rfl, hrest⟩
      · refine ⟨[], c :: cs, front, rfl, rfl, ?_, ?_⟩
        · by_cases hnone : front = []
          · exact .inl hnone
          · exact .inr ⟨c, more, hmore, hnone, hwhole⟩
        · rw [bytesOfChars, List.flatMap_cons, hmore, hrest, List.append_assoc]
    · obtain ⟨before, after, cut, rfl, rfl, hcut, hafter⟩ := ih hfront.symm
      exact ⟨c :: before, after, cut, rfl, by simp [bytesOfChars], hcut, hafter⟩

/-- The bytes that wait and those of the blocks left are together whole characters. Each block gives
some of these and leaves the others. -/
theorem readFrom_utf8 {cs : List Char} {waiting : List UInt8} {blocks : List (List UInt8)}
    (h : waiting ++ blocks.flatten = bytesOfChars cs) :
    Decoder.utf8.readFrom () waiting blocks = (ofChars cs, true) := by
  induction blocks generalizing cs waiting with
  | nil =>
    rw [List.flatten_nil, List.append_nil] at h
    have hstep : Decoder.utf8.step true () waiting = some (ofChars cs, (), []) := by
      change (utf8Step true waiting).map _ = _
      rw [h, utf8Step_end]
      rfl
    simp only [Decoder.readFrom, hstep]
  | cons block blocks ih =>
    rw [List.flatten_cons, ← List.append_assoc] at h
    obtain ⟨before, after, cut, rfl, hfront, hcut, hafter⟩ := exists_cut h
    have hstep : Decoder.utf8.step false () (waiting ++ block) =
        some (ofChars before, (), cut) := by
      change (utf8Step false (waiting ++ block)).map _ = _
      rw [hfront, utf8Step_block before hcut]
      rfl
    simp only [Decoder.readFrom, hstep, ih hafter, ofChars_append]

theorem flatten_blocksFrom (n : Nat) (bytes : List UInt8) : (blocksFrom n bytes).flatten = bytes := by
  induction n generalizing bytes with
  | zero => cases bytes <;> simp [blocksFrom]
  | succ n ih =>
    cases bytes with
    | nil => rfl
    | cons b bytes =>
      rw [blocksFrom, List.flatten_cons, ih, List.take_append_drop]
      simp

theorem utf8Lines_toUTF8 (text : String) :
    (utf8Lines text.toUTF8).1 = linesRead (ofChars text.toList) := by
  have hbytes : [] ++ (blocks text.toUTF8.toList).flatten = bytesOfChars text.toList := by
    rw [List.nil_append, blocks, flatten_blocksFrom, toList_toUTF8]
  have hread : Encoding.utf8.decoder.read (blocks text.toUTF8.toList) =
      (ofChars text.toList, true) := readFrom_utf8 hbytes
  simp only [utf8Lines, Encoding.linesOf, hread, if_true]

end DroidAudit.Text
