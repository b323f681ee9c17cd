import DroidAudit.Command.Words
import Mathlib.Data.List.TakeWhile

/-! Command lines that are made of words. A line that joins words with single blanks is split into
the same words again just if none of them holds a special character. Every separator and every
quote or backslash that has an effect is left out of the words, and nothing else is put in, so a
line with special characters has too few others to make up for them. -/
namespace DroidAudit.Command

def isSpecial (c : Char) : Bool := [' ', '\t', '\r', '\n', '\'', '"', '\\'].contains c

theorem isSpecial_eq (c : Char) : isSpecial c = (separatesWords c || isQuote c || c == '\\') := by
  simp only [isSpecial, List.contains_cons, List.contains_nil, separatesWords, isQuote,
    Bool.or_false, Bool.or_assoc]

theorem plain_of_all {word : String} (h : word.toList.all (!isSpecial ·) = true) :
    ∀ c ∈ word.toList, isSpecial c = false := by
  simpa using h

def joined (words : List (List Char)) : List Char := [' '].intercalate words

theorem joined_cons_cons (w v : List Char) (ws : List (List Char)) :
    joined (w :: v :: ws) = w ++ ' ' :: joined (v :: ws) := by
  rw [joined, List.intercalate_cons_cons, List.append_assoc]
  rfl

theorem wordsFrom_between_cons (word : WordSoFar) (c : Char) (cs : List Char) :
    wordsFrom .between word (c :: cs) = if separatesWords c then wordsFrom .between [] cs
      else wordsFrom (enterWord c word).1 (enterWord c word).2 cs := rfl

theorem wordsFrom_inside_cons (word : WordSoFar) (c : Char) (cs : List Char) :
    wordsFrom .inside word (c :: cs) =
      if separatesWords c then (wordsFrom .between [] cs).map (word.reverse :: ·)
      else wordsFrom (enterWord c word).1 (enterWord c word).2 cs := rfl

variable {ws : List (List Char)}

theorem exists_of_separator {c : Char} (hsep : separatesWords c = true) {word : WordSoFar}
    {cs : List Char} (h : wordsFrom .inside word (c :: cs) = .ok ws) :
    ∃ more, wordsFrom .between [] cs = .ok more ∧ ws = word.reverse :: more := by
  rw [wordsFrom_inside_cons, if_pos hsep] at h
  cases hmore : wordsFrom .between [] cs with
  | error e =>
    rw [hmore] at h
    cases h
  | ok more =>
    rw [hmore] at h
    cases h
    exact ⟨more, rfl, rfl⟩

theorem countP_joined (test : Char → Bool) (htest : test ' ' = true)
    (hne : ws ≠ []) : (joined ws).countP test + 1 = ws.flatten.countP test + ws.length := by
  induction ws with
  | nil => exact absurd rfl hne
  | cons w ws ih =>
    cases ws with
    | nil => simp [joined]
    | cons v ws =>
      have hrest := ih (List.cons_ne_nil v ws)
      rw [joined_cons_cons, List.countP_append, List.countP_cons_of_pos htest, List.flatten_cons,
        List.countP_append, List.length_cons]
      omega

/-! How much room the words of a line have. -/

def room (ws : List (List Char)) : Nat := ws.flatten.length + ws.length

theorem room_cons (w : List Char) (ws : List (List Char)) :
    room (w :: ws) = w.length + 1 + room ws := by
  simp only [room, List.flatten_cons, List.length_append, List.length_cons]
  omega

theorem room_joined (hne : ws ≠ []) : room ws = (joined ws).length + 1 := by
  have hcount := countP_joined (fun _ => true) rfl hne
  simp only [List.countP_true] at hcount
  rw [room, hcount]

/-- The room for the end of the line: between quotes it is taken by the quote to come. -/
def WordsPlace.reserve : WordsPlace → Nat
  | quoting _ => 0
  | _ => 1

theorem reserve_enterWord_le (c : Char) (word : WordSoFar) :
    (enterWord c word).2.length + (enterWord c word).1.reserve ≤ word.length + 2 := by
  rw [enterWord]
  split
  · simp [WordsPlace.reserve]
  · split <;> simp [WordsPlace.reserve]

theorem reserve_enterWord_lt {c : Char} (h : isQuote c = true ∨ c = '\\') (word : WordSoFar) :
    (enterWord c word).2.length + (enterWord c word).1.reserve < word.length + 2 := by
  rw [enterWord]
  split
  · simp [WordsPlace.reserve]
  · rename_i hquote
    have hback : (c == '\\') = true := by simpa [hquote] using h
    simp [hback, WordsPlace.reserve]

theorem reserve_addEscaped_le (quote : Option Char) (c : Char) (word : WordSoFar) :
    (addEscaped quote c word).2.length + (addEscaped quote c word).1.reserve ≤ word.length + 2 := by
  cases quote with
  | none => simp [addEscaped, WordsPlace.reserve]
  | some q =>
    simp only [addEscaped, WordsPlace.reserve]
    split <;> simp

theorem room_le {place : WordsPlace} {word : WordSoFar} {cs : List Char}
    (h : wordsFrom place word cs = .ok ws) : room ws ≤ word.length + cs.length + place.reserve := by
  induction cs generalizing place word ws with
  | nil =>
    cases place with
    | between =>
      cases h
      exact Nat.zero_le _
    | inside =>
      cases h
      simp [room, WordsPlace.reserve]
    | quoting q => cases h
    | escaping q => cases h
  | cons c cs ih =>
    have henter := reserve_enterWord_le c word
    cases place with
    | between =>
      rw [wordsFrom_between_cons] at h
      split at h
      · have hrest := ih h
        simp only [WordsPlace.reserve, List.length_nil, List.length_cons] at hrest ⊢
        omega
      · have hrest := ih h
        simp only [WordsPlace.reserve, List.length_cons]
        omega
    | inside =>
      by_cases hsep : separatesWords c = true
      · obtain ⟨more, hmore, rfl⟩ := exists_of_separator hsep h
        have hrest := ih hmore
        rw [room_cons, List.length_reverse]
        simp only [WordsPlace.reserve, List.length_nil, List.length_cons] at hrest ⊢
        omega
      · rw [wordsFrom_inside_cons, if_neg hsep] at h
        have hrest := ih h
        simp only [WordsPlace.reserve, List.length_cons]
        omega
    | quoting q =>
      rw [wordsFrom] at h
      split at h
      · have hrest := ih h
        simpa [WordsPlace.reserve, Nat.add_assoc] using hrest
      · split at h
        · have hrest := ih h
          simpa [WordsPlace.reserve, Nat.add_assoc] using hrest
        · have hrest := ih h
          simp only [WordsPlace.reserve, List.length_cons] at hrest ⊢
          omega
    | escaping q =>
      rw [wordsFrom] at h
      have hrest := ih h
      have hadd := reserve_addEscaped_le q c word
      simp only [WordsPlace.reserve, List.length_cons]
      omega

/-- Words that take up all the room come from a line without quotes and backslashes, and each of its
separators stands between two of them. -/
theorem of_room_eq {cs : List Char} {place : WordsPlace} {word : WordSoFar}
    (hplace : place = .inside ∨ place = .between ∧ word = [])
    (h : wordsFrom place word cs = .ok ws) (hroom : room ws = word.length + cs.length + 1) :
    (∀ c ∈ cs, ¬(isQuote c = true ∨ c = '\\')) ∧ cs.countP separatesWords + 1 = ws.length := by
  induction cs generalizing place word ws with
  | nil =>
    rcases hplace with rfl | ⟨rfl, rfl⟩
    · cases h
      exact ⟨fun c hc => absurd hc List.not_mem_nil, rfl⟩
    · cases h
      cases hroom
  | cons c cs ih =>
    -- A character that begins or continues a word: all the room is taken only if it stays.
    have hplain (hsep : ¬separatesWords c = true)
        (hnext : wordsFrom (enterWord c word).1 (enterWord c word).2 cs = .ok ws) :
        (∀ d ∈ c :: cs, ¬(isQuote d = true ∨ d = '\\')) ∧
          (c :: cs).countP separatesWords + 1 = ws.length := by
      have hc : ¬(isQuote c = true ∨ c = '\\') := by
        intro hspecial
        have hle := room_le hnext
        have hlt := reserve_enterWord_lt hspecial word
        rw [List.length_cons] at hroom
        omega
      rw [not_or] at hc
      have henter : enterWord c word = (.inside, c :: word) := by
        rw [enterWord, if_neg hc.1, if_neg (by simpa using hc.2)]
      rw [henter] at hnext
      obtain ⟨hcs, hcount⟩ := ih (.inl rfl) hnext (by
        simp only [List.length_cons] at hroom ⊢
        omega)
      refine ⟨List.forall_mem_cons.mpr ⟨not_or.mpr hc, hcs⟩, ?_⟩
      rw [List.countP_cons_of_neg hsep, hcount]
    rcases hplace with rfl | ⟨rfl, rfl⟩
    · by_cases hsep : separatesWords c = true
      · obtain ⟨more, hmore, rfl⟩ := exists_of_separator hsep h
        rw [room_cons, List.length_reverse, List.length_cons] at hroom
        obtain ⟨hcs, hcount⟩ := ih (.inr ⟨rfl, rfl⟩) hmore (by
          rw [List.length_nil]
          omega)
        refine ⟨List.forall_mem_cons.mpr ⟨?_, hcs⟩, ?_⟩
        · simp only [separatesWords, Bool.or_eq_true, beq_iff_eq] at hsep
          rcases hsep with ((rfl | rfl) | rfl) | rfl <;> decide
        · rw [List.countP_cons_of_pos hsep, hcount, List.length_cons]
      · rw [wordsFrom_inside_cons, if_neg hsep] at h
        exact hplain hsep h
    · rw [wordsFrom_between_cons] at h
      split at h
      · have hle := room_le h
        simp only [WordsPlace.reserve, List.length_nil, List.length_cons] at hle hroom
        omega
      · rename_i hsep
        exact hplain hsep h

/-! Splitting what was joined. -/

/-- A character is read back from what is written for it, in front of a word and inside. -/
def Faithful (form : Char → List Char) (c : Char) : Prop :=
  ∀ place, place = .between ∨ place = .inside → ∀ (word : WordSoFar) (cs : List Char),
    wordsFrom place word (form c ++ cs) = wordsFrom .inside (c :: word) cs

variable {form : Char → List Char}

theorem faithful_of_plain {c : Char} (h : isSpecial c = false) (hform : form c = [c]) :
    Faithful form c := by
  simp only [isSpecial_eq, Bool.or_eq_false_iff] at h
  obtain ⟨⟨hsep, hquote⟩, hback⟩ := h
  rintro place (rfl | rfl) word cs <;>
    simp [hform, wordsFrom_between_cons, wordsFrom_inside_cons, enterWord, hsep, hquote, hback]

theorem wordsFrom_inside_append {w : List Char} (h : ∀ c ∈ w, Faithful form c)
    (word : WordSoFar) (cs : List Char) :
    wordsFrom .inside word (w.flatMap form ++ cs) = wordsFrom .inside (w.reverse ++ word) cs := by
  induction w generalizing word with
  | nil => rfl
  | cons c w ih =>
    obtain ⟨hc, hw⟩ := List.forall_mem_cons.mp h
    rw [List.flatMap_cons, List.append_assoc, hc _ (.inr rfl), ih hw, List.reverse_cons,
      List.append_assoc]
    rfl

theorem wordsFrom_between_append {w : List Char} (hne : w ≠ []) (h : ∀ c ∈ w, Faithful form c)
    (cs : List Char) :
    wordsFrom .between [] (w.flatMap form ++ cs) = wordsFrom .inside w.reverse cs := by
  cases w with
  | nil => exact absurd rfl hne
  | cons c w =>
    obtain ⟨hc, hw⟩ := List.forall_mem_cons.mp h
    rw [List.flatMap_cons, List.append_assoc, hc _ (.inl rfl), wordsFrom_inside_append hw,
      List.reverse_cons]

theorem wordsFrom_joined (hblank : form ' ' = [' ']) (hfull : ∀ w ∈ ws, w ≠ [])
    (h : ∀ w ∈ ws, ∀ c ∈ w, Faithful form c) :
    wordsFrom .between [] ((joined ws).flatMap form) = .ok ws := by
  induction ws with
  | nil => rfl
  | cons w ws ih =>
    rw [List.forall_mem_cons] at hfull h
    have hrest := ih hfull.2 h.2
    cases ws with
    | nil =>
      have hline : (joined [w]).flatMap form = w.flatMap form ++ [] := by simp [joined]
      rw [hline, wordsFrom_between_append hfull.1 h.1]
      exact congrArg (Except.ok [·]) (List.reverse_reverse w)
    | cons v ws =>
      rw [joined_cons_cons, List.flatMap_append, List.flatMap_cons, hblank,
        wordsFrom_between_append hfull.1 h.1, List.singleton_append, wordsFrom_inside_cons,
        if_pos (by decide), hrest, List.reverse_reverse]
      rfl

/-- A line of words is split into these words just if none of them has a special character. -/
theorem wordsFrom_joined_iff (hne : ws ≠ []) (hfull : ∀ w ∈ ws, w ≠ []) :
    wordsFrom .between [] (joined ws) = .ok ws ↔ ∀ w ∈ ws, ∀ c ∈ w, isSpecial c = false := by
  refine ⟨fun h => ?_, fun h => ?_⟩
  · obtain ⟨hquiet, hcount⟩ := of_room_eq (.inr ⟨rfl, rfl⟩) h (by simpa using room_joined hne)
    -- All that is special in the line separates words, and there are only the blanks between them.
    have hspecial : (joined ws).countP isSpecial = (joined ws).countP separatesWords := by
      refine List.countP_congr fun c hc => ?_
      have hc := hquiet c hc
      rw [not_or] at hc
      simp [isSpecial_eq, hc.1, hc.2]
    have hjoined := countP_joined isSpecial (by decide) hne
    have hnone : ws.flatten.countP isSpecial = 0 := by omega
    rw [List.countP_eq_zero] at hnone
    intro w hw c hc
    exact Bool.eq_false_iff.mpr (hnone c (List.mem_flatten.mpr ⟨w, hw, hc⟩))
  · have hforms : ∀ w ∈ ws, ∀ c ∈ w, Faithful ([·]) c := fun w hw c hc =>
      faithful_of_plain (h w hw c hc) rfl
    simpa using wordsFrom_joined rfl hfull hforms

theorem words_eq_ok_iff {line : String} {ws : List String} :
    words line = .ok ws ↔ wordsFrom .between [] line.toList = .ok (ws.map String.toList) := by
  rw [words]
  cases wordsFrom .between [] line.toList with
  | error e => exact ⟨fun h => (by cases h), fun h => (by cases h)⟩
  | ok found =>
    refine ⟨fun h => congrArg Except.ok ?_, fun h => congrArg Except.ok ?_⟩
    · simp [← Except.ok.inj h, Function.comp_def]
    · simp [Except.ok.inj h, Function.comp_def]

theorem words_joined_iff {line : String} {ws : List String}
    (hline : line.toList = joined (ws.map String.toList)) (hne : ws ≠ []) (hfull : ∀ w ∈ ws, w ≠ "") :
    words line = .ok ws ↔ ∀ w ∈ ws, ∀ c ∈ w.toList, isSpecial c = false := by
  rw [words_eq_ok_iff, hline, wordsFrom_joined_iff (by simpa using hne) (by simpa using hfull)]
  simp

end DroidAudit.Command
