import DroidAudit.Text.Integer
import Mathlib.Data.List.TakeWhile

/-! Which texts are whole numbers. Between blanks stand a sign, if there is one, and groups of
digits with single low lines between them; reading gives the number that the digits stand for. -/
namespace DroidAudit.Text

theorem splitAt_eq_splitOn (mark : Char) (cs : List Char) : splitAt mark cs = cs.splitOn mark := by
  induction cs with
  | nil => rfl
  | cons c cs ih =>
    rw [splitAt, ih, List.splitOn_cons_eq_if_modifyHead]
    cases h : cs.splitOn mark with
    | nil => exact absurd h (List.splitOn_ne_nil mark cs)
    | cons piece rest => rfl

theorem splitAt_of_not_mem {mark : Char} {cs : List Char} (h : mark ∉ cs) :
    splitAt mark cs = [cs] := by
  rw [splitAt_eq_splitOn, List.splitOn]
  exact List.splitOnP_eq_singleton fun c hc => beq_false_of_ne (ne_of_mem_of_not_mem hc h)

theorem splitAt_append_mark (mark : Char) (before after : List Char) :
    splitAt mark (before ++ mark :: after) = splitAt mark before ++ splitAt mark after := by
  simp only [splitAt_eq_splitOn, List.splitOn]
  exact List.splitOnP_append_cons before after (beq_self_eq_true mark)

theorem of_mem_splitAt {mark : Char} {cs piece : List Char} (h : piece ∈ splitAt mark cs) :
    ∀ c ∈ piece, c ≠ mark ∧ c ∈ cs := by
  induction cs generalizing piece with
  | nil =>
    rw [splitAt, List.mem_singleton] at h
    simp [h]
  | cons d cs ih =>
    have hmore : ∀ p ∈ splitAt mark cs, ∀ c ∈ p, c ≠ mark ∧ c ∈ d :: cs := fun p hp c hc =>
      ⟨(ih hp c hc).1, List.mem_cons_of_mem d (ih hp c hc).2⟩
    rw [splitAt] at h
    split at h
    · rcases List.mem_cons.mp h with rfl | h
      · simp
      · exact hmore piece h
    · rename_i hd
      have hmark : d ≠ mark ∧ d ∈ d :: cs := ⟨by simpa using hd, List.mem_cons_self⟩
      cases hrest : splitAt mark cs with
      | nil =>
        rw [hrest, List.mem_singleton] at h
        simpa [h] using hmark.1
      | cons first rest =>
        rw [hrest] at h
        rw [hrest, List.forall_mem_cons] at hmore
        rcases List.mem_cons.mp h with rfl | h
        · exact List.forall_mem_cons.mpr ⟨hmark, hmore.1⟩
        · exact hmore.2 piece h

theorem forall_mem_intercalate {P : Char → Prop} {sep : List Char} (hsep : ∀ c ∈ sep, P c)
    {pieces : List (List Char)} (h : ∀ p ∈ pieces, ∀ c ∈ p, P c) :
    ∀ c ∈ sep.intercalate pieces, P c := by
  induction pieces with
  | nil => simp
  | cons p rest ih =>
    obtain ⟨hp, hrest⟩ := List.forall_mem_cons.mp h
    cases rest with
    | nil => simpa using hp
    | cons q rest =>
      rw [List.intercalate_cons_cons, List.forall_mem_append, List.forall_mem_append]
      exact ⟨⟨hp, hsep⟩, ih hrest⟩

theorem filter_intercalate {mark : Char} {pieces : List (List Char)}
    (h : ∀ p ∈ pieces, ∀ c ∈ p, c ≠ mark) :
    ([mark].intercalate pieces).filter (· != mark) = pieces.flatten := by
  have hself : ∀ p ∈ pieces, p.filter (· != mark) = p := fun p hp =>
    List.filter_eq_self.mpr fun c hc => by simpa using h p hp c hc
  induction pieces with
  | nil => rfl
  | cons p rest ih =>
    rw [List.forall_mem_cons] at hself
    cases rest with
    | nil => simpa using hself.1
    | cons q rest =>
      rw [List.intercalate_cons_cons, List.filter_append, List.filter_append, hself.1,
        ih (fun r hr => h r (by simp [hr])) hself.2]
      simp

theorem intercalate_splitAt (mark : Char) (cs : List Char) :
    [mark].intercalate (splitAt mark cs) = cs := by
  rw [splitAt_eq_splitOn, List.intercalate_splitOn]

theorem flatten_splitAt (mark : Char) (cs : List Char) :
    (splitAt mark cs).flatten = cs.filter (· != mark) := by
  have hmarks : ∀ piece ∈ splitAt mark cs, ∀ c ∈ piece, c ≠ mark := fun piece hpiece c hc =>
    (of_mem_splitAt hpiece c hc).1
  rw [← filter_intercalate hmarks, intercalate_splitAt]

/-! Numbers in their parts. -/

inductive Sign
  | absent
  | plus
  | minus

namespace Sign

def chars : Sign → List Char
  | absent => []
  | plus => ['+']
  | minus => ['-']

def isNegative : Sign → Bool
  | minus => true
  | _ => false

theorem exists_of_cutSign (cs : List Char) :
    ∃ s : Sign, (cutSign cs).1 = s.isNegative ∧ cs = s.chars ++ (cutSign cs).2 := by
  unfold cutSign
  split
  · exact ⟨minus, rfl, rfl⟩
  · exact ⟨plus, rfl, rfl⟩
  · exact ⟨absent, rfl, rfl⟩

theorem cutSign_append (s : Sign) {d : Char} (hd : d.isDigit = true) (ds : List Char) :
    cutSign (s.chars ++ d :: ds) = (s.isNegative, d :: ds) := by
  have hminus : d ≠ '-' := by rintro rfl; exact absurd hd (by decide)
  have hplus : d ≠ '+' := by rintro rfl; exact absurd hd (by decide)
  cases s with
  | absent => simp [chars, isNegative, cutSign, hminus, hplus]
  | plus => rfl
  | minus => rfl

end Sign

structure Numeral where
  front : List Char
  sign : Sign
  groups : List (List Char)
  back : List Char
  blanks : ∀ c ∈ front ++ back, isNumberBlank c = true
  groups_ne_nil : groups ≠ []
  digits : ∀ g ∈ groups, g ≠ [] ∧ ∀ c ∈ g, c.isDigit = true
  short : groups.flatten.length ≤ maxIntegerDigits

namespace Numeral

def body (n : Numeral) : List Char := ['_'].intercalate n.groups

def chars (n : Numeral) : List Char := n.front ++ (n.sign.chars ++ n.body ++ n.back)

def value (n : Numeral) : Int :=
  if n.sign.isNegative then -(valueOfDigits n.groups.flatten : Int)
  else valueOfDigits n.groups.flatten

theorem not_low_line (n : Numeral) : ∀ g ∈ n.groups, ∀ c ∈ g, c ≠ '_' := by
  rintro g hg c hc rfl
  exact absurd ((n.digits g hg).2 '_' hc) (by decide)

theorem splitAt_body (n : Numeral) : splitAt '_' n.body = n.groups := by
  rw [splitAt_eq_splitOn, body]
  exact List.splitOn_intercalate '_' (fun g hg hmem => n.not_low_line g hg '_' hmem rfl)
    n.groups_ne_nil

theorem filter_body (n : Numeral) : n.body.filter (· != '_') = n.groups.flatten :=
  filter_intercalate n.not_low_line

theorem mem_body (n : Numeral) : ∀ c ∈ n.body, (c.isDigit || c == '_') = true := by
  refine forall_mem_intercalate (by simp) fun g hg c hc => ?_
  simp [(n.digits g hg).2 c hc]

theorem body_eq_cons (n : Numeral) : ∃ d ds, n.body = d :: ds ∧ d.isDigit = true := by
  obtain ⟨g, rest, hgroups⟩ := List.exists_cons_of_ne_nil n.groups_ne_nil
  obtain ⟨hne, hdigits⟩ := n.digits g (by simp [hgroups])
  obtain ⟨d, ds, rfl⟩ := List.exists_cons_of_ne_nil hne
  have hd : d.isDigit = true := hdigits d (by simp)
  rw [body, hgroups]
  cases rest with
  | nil => exact ⟨d, ds, by simp, hd⟩
  | cons g rest => exact ⟨d, _, by rw [List.intercalate_cons_cons, List.cons_append]; rfl, hd⟩

def ofBody (front : List Char) (sign : Sign) (body back : List Char)
    (blanks : ∀ c ∈ front ++ back, isNumberBlank c = true)
    (hrun : ∀ c ∈ body, (c.isDigit || c == '_') = true) (hspaced : isSpaced body = true)
    (hshort : (body.filter (· != '_')).length ≤ maxIntegerDigits) : Numeral where
  front := front
  sign := sign
  groups := splitAt '_' body
  back := back
  blanks := blanks
  groups_ne_nil := by
    rw [splitAt_eq_splitOn]
    exact List.splitOn_ne_nil '_' body
  digits := by
    intro g hg
    refine ⟨?_, fun c hc => ?_⟩
    · rintro rfl
      simpa using List.all_eq_true.mp hspaced [] hg
    · obtain ⟨hline, hmem⟩ := of_mem_splitAt hg c hc
      simpa [hline] using hrun c hmem
  short := by
    rw [flatten_splitAt]
    exact hshort

end Numeral

/-! Blanks. -/

theorem trimNumber_append {front middle back : List Char} (hne : middle ≠ [])
    (hfront : ∀ c ∈ front, isNumberBlank c = true)
    (hmiddle : ∀ c ∈ middle, isNumberBlank c = false)
    (hback : ∀ c ∈ back, isNumberBlank c = true) :
    trimNumber (front ++ (middle ++ back)) = middle := by
  have hdrop : ∀ cs ds : List Char, (∀ c ∈ cs, isNumberBlank c = true) → ds ≠ [] →
      (∀ c ∈ ds.head?, isNumberBlank c = false) →
      (cs ++ ds).dropWhile isNumberBlank = ds := by
    intro cs ds hcs hds hhead
    obtain ⟨d, ds, rfl⟩ := List.exists_cons_of_ne_nil hds
    rw [List.dropWhile_append_of_pos hcs, List.dropWhile_cons_of_neg]
    simpa using hhead
  rw [trimNumber, hdrop front (middle ++ back) hfront (by simp [hne]), List.reverse_append,
    hdrop back.reverse middle.reverse (by simpa using hback) (by simpa using hne),
    List.reverse_reverse]
  · intro c hc
    exact hmiddle c (List.mem_reverse.mp (List.mem_of_mem_head? hc))
  · obtain ⟨d, ds, rfl⟩ := List.exists_cons_of_ne_nil hne
    simpa using hmiddle d (by simp)

theorem exists_trimNumber (cs : List Char) :
    ∃ front back, cs = front ++ (trimNumber cs ++ back) ∧
      ∀ c ∈ front ++ back, isNumberBlank c = true := by
  refine ⟨cs.takeWhile isNumberBlank,
    ((cs.dropWhile isNumberBlank).reverse.takeWhile isNumberBlank).reverse, ?_, ?_⟩
  · rw [trimNumber, ← List.reverse_append, List.takeWhile_append_dropWhile, List.reverse_reverse,
      List.takeWhile_append_dropWhile]
  · rw [List.forall_mem_append]
    refine ⟨fun c hc => List.mem_takeWhile_imp hc, fun c hc => ?_⟩
    exact List.mem_takeWhile_imp (List.mem_reverse.mp hc)

/-! Reading. -/

theorem Numeral.trimNumber_chars (n : Numeral) : trimNumber n.chars = n.sign.chars ++ n.body := by
  obtain ⟨d, ds, hbody, -⟩ := n.body_eq_cons
  have hblanks := List.forall_mem_append.mp n.blanks
  have hsign : ∀ c ∈ n.sign.chars, isNumberBlank c = false := by
    have hall : n.sign.chars.all (!isNumberBlank ·) = true := by cases n.sign <;> rfl
    simpa using hall
  have hclear : ∀ c ∈ n.body, isNumberBlank c = false := by
    intro c hc
    have hmark := n.mem_body c hc
    simp only [Char.isDigit, Bool.or_eq_true, Bool.and_eq_true, decide_eq_true_eq, ge_iff_le,
      UInt32.le_iff_toNat_le, beq_iff_eq] at hmark
    simp only [isNumberBlank, Bool.or_eq_false_iff, beq_eq_false_iff_ne, Bool.and_eq_false_iff,
      decide_eq_false_iff_not]
    rcases hmark with ⟨hlow, -⟩ | rfl
    · have hcode : 48 ≤ c.toNat := hlow
      refine ⟨?_, by omega⟩
      rintro rfl
      exact absurd hcode (by decide)
    · decide
  refine trimNumber_append (by simp [hbody]) hblanks.1 ?_ hblanks.2
  exact List.forall_mem_append.mpr ⟨hsign, hclear⟩

theorem Numeral.readInteger (n : Numeral) {text : String} (h : plainNumber text.toList = n.chars) :
    readInteger text = .ok n.value := by
  obtain ⟨d, ds, hbody, hd⟩ := n.body_eq_cons
  have hcut : cutSign (n.sign.chars ++ n.body) = (n.sign.isNegative, n.body) := by
    rw [hbody, Sign.cutSign_append _ hd]
  have hrun : n.body.takeWhile (fun c => c.isDigit || c == '_') = n.body :=
    List.takeWhile_eq_self_iff.mpr n.mem_body
  have hspaced : isSpaced n.body = true := by
    rw [isSpaced, n.splitAt_body, List.all_eq_true]
    intro g hg
    simpa using (n.digits g hg).1
  have hshort : ¬maxIntegerDigits < n.groups.flatten.length := Nat.not_lt.mpr n.short
  simp only [Text.readInteger, h, n.trimNumber_chars, hcut, hrun, hspaced, n.filter_body, hshort,
    Bool.not_true, Bool.false_eq_true, if_false, bne_self_eq_false, value]

theorem readInteger_ok_iff {text : String} {value : Int} :
    readInteger text = .ok value ↔
      ∃ n : Numeral, plainNumber text.toList = n.chars ∧ n.value = value := by
  constructor
  · intro h
    obtain ⟨front, back, htrim, hblanks⟩ := exists_trimNumber (plainNumber text.toList)
    obtain ⟨sign, hsign, hcut⟩ := Sign.exists_of_cutSign (trimNumber (plainNumber text.toList))
    unfold readInteger at h
    cases hparts : cutSign (trimNumber (plainNumber text.toList)) with
    | mk negative body =>
      simp only [hparts] at h hsign hcut
      split at h
      · cases h
      rename_i hspaced
      split at h
      · cases h
      rename_i hshort
      split at h
      · cases h
      rename_i hlength
      have hrun : body.takeWhile (fun c => c.isDigit || c == '_') = body :=
        (List.takeWhile_prefix _).eq_of_length (by simpa using hlength)
      rw [hrun] at h hspaced hshort
      refine ⟨.ofBody front sign body back hblanks (List.takeWhile_eq_self_iff.mp hrun)
        (by simpa using hspaced) (Nat.not_lt.mp hshort), ?_, ?_⟩
      · rw [htrim, hcut, Numeral.chars, Numeral.body, Numeral.ofBody, intercalate_splitAt]
      · rw [Numeral.value, Numeral.ofBody, flatten_splitAt, ← hsign]
        exact Except.ok.inj h
  · rintro ⟨n, h, rfl⟩
    exact n.readInteger h

end DroidAudit.Text
