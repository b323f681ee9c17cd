import DroidAudit.Proofs.LineReading
import DroidAudit.Proofs.MarkedText
import DroidAudit.Proofs.ReportedOnce
import DroidAudit.Proofs.SearchExpressions
import Mathlib.Data.List.Infix

/-! The lines of a file that hold a word. Comments, logging and some fields are left out, which is
said by five expressions of which one has to match at the front of the line. Two of them are bound to
the front, two reach over what stands before, and one is bound to the end, where a line feed may
follow. Main statement: the lines that are found are those with the word of which no blank-led start,
no end and no place inside says that they are left out. -/
namespace DroidAudit

namespace Text

/-- A line of a text: what stands on it, and whether a line feed ends it. -/
structure TextLine where
  stem : List Char
  ended : Bool
  deriving DecidableEq

def TextLine.full (l : TextLine) : List Char := l.stem ++ if l.ended then ['\n'] else []

/-- Lines by the pieces between line feeds. There is no line behind a last line feed. -/
def TextLine.ofPieces : List (List Char) → List TextLine
  | [] => []
  | [last] => if last.isEmpty then [] else [⟨last, false⟩]
  | piece :: rest => ⟨piece, true⟩ :: ofPieces rest

def textLines (cs : List Char) : List TextLine :=
  TextLine.ofPieces (cs.splitOn '\n')

theorem linesKept_eq (cs : List Char) : linesKept cs = (textLines cs).map TextLine.full := by
  rw [textLines, ← splitAt_eq_splitOn]
  induction cs with
  | nil => rfl
  | cons c cs ih =>
    have hne : splitAt '\n' cs ≠ [] := by
      rw [splitAt_eq_splitOn]
      exact List.splitOn_ne_nil '\n' cs
    obtain ⟨piece, rest, hsplit⟩ := List.ne_nil_iff_exists_cons.mp hne
    rw [hsplit] at ih
    by_cases hc : c = '\n'
    · simp [hc, linesKept, splitAt, hsplit, ih, TextLine.ofPieces, TextLine.full]
    · simp only [linesKept, splitAt, hsplit, ih, beq_eq_false_iff_ne.mpr hc, Bool.false_eq_true,
        if_false]
      cases rest with
      | nil => cases piece <;> rfl
      | cons next rest => rfl

theorem TextLine.mem_of_mem_ofPieces {pieces : List (List Char)} {l : TextLine}
    (h : l ∈ ofPieces pieces) : l.stem ∈ pieces := by
  fun_induction ofPieces pieces with
  | case1 => cases h
  | case2 last hlast => cases h
  | case3 last hlast =>
    rw [List.mem_singleton.mp h]
    exact List.mem_cons_self
  | case4 piece rest hrest ih =>
    rcases List.mem_cons.mp h with rfl | h
    · exact List.mem_cons_self
    · exact List.mem_cons_of_mem _ (ih h)

theorem feed_not_mem_stem {cs : List Char} {l : TextLine} (h : l ∈ textLines cs) :
    '\n' ∉ l.stem := by
  have hpiece := TextLine.mem_of_mem_ofPieces h
  rw [← splitAt_eq_splitOn] at hpiece
  exact fun hmem => (of_mem_splitAt hpiece _ hmem).1 rfl

section Line
variable {l : TextLine} {word : List Char}

/-- A line feed at the end makes no place for a word that ends otherwise. -/
theorem infix_full_iff (hword : word.getLast? ≠ some '\n') :
    word <:+: l.full ↔ word <:+: l.stem := by
  obtain ⟨stem, ended⟩ := l
  cases ended with
  | false => rw [TextLine.full, if_neg Bool.false_ne_true, List.append_nil]
  | true =>
    rw [TextLine.full, if_pos rfl, List.infix_concat_iff, List.suffix_concat_iff]
    refine ⟨?_, .inr⟩
    rintro ((rfl | ⟨front, rfl, -⟩) | h)
    · exact List.nil_infix
    · exact absurd List.getLast?_concat hword
    · exact h

theorem prefix_unindented_iff (hword : word.getLast? ≠ some '\n') :
    word <+: l.full.dropWhile isBlank ↔ word <+: l.stem.dropWhile isBlank := by
  obtain ⟨stem, ended⟩ := l
  cases ended with
  | false => rw [TextLine.full, if_neg Bool.false_ne_true, List.append_nil]
  | true =>
    have hfeed : isBlank '\n' = true := by decide
    rw [TextLine.full, if_pos rfl, List.dropWhile_append]
    cases hstem : stem.dropWhile isBlank with
    | nil => rw [List.isEmpty_nil, if_pos rfl, List.dropWhile_cons_of_pos hfeed, List.dropWhile_nil]
    | cons c cs =>
      rw [List.isEmpty_cons, if_neg Bool.false_ne_true, List.prefix_concat_iff]
      refine ⟨?_, .inr⟩
      rintro (rfl | h)
      · exact absurd List.getLast?_concat hword
      · exact h

end Line
end Text

namespace LinePattern
open Text (isBlank isReserved isReserved_selfMark isBlank_of_reserved ne_of_reserved ofChars
  TextLine textLines unifyNewlines)
open Pattern (Expr isNotLineFeed afterEach exactly)

/-- Lines that are left out: comments, logging, and fields that hold text or lists. -/
def IsExcluded (line : List Char) : Prop :=
  (∃ word ∈ ["//", "/*", "*"], word.toList <+: line.dropWhile isBlank) ∨
    "*/".toList <:+ line ∨
    (∃ c ∈ line, "Log.".toList ++ c :: "(".toList <+: line.dropWhile isBlank) ∨
    ∃ access ∈ ["public", "private"], ∃ type ∈ ["String", "List"], ∃ c ∈ line,
      isBlank c = true ∧ access.toList ++ c :: type.toList <:+: line

instance (line : List Char) : Decidable (IsExcluded line) :=
  have (p : Char → Prop) [DecidablePred p] : Decidable (∃ c ∈ line, p c) := List.decidableBEx p line
  inferInstanceAs (Decidable (_ ∨ _ ∨ _ ∨ _))

/-! The expressions for lines that are left out. -/

open Pattern.Expr

def indented (e : Expr) : Expr := both atFront (both (many (one isBlank)) e)

/-- Something behind any characters of the line. -/
def behindAny (e : Expr) : Expr := both (many (one isNotLineFeed)) e

def commentStart : Expr := indented (either (word "//".toList) (word "/*".toList))

def commentLine : Expr := indented (word "*".toList)

def commentEnd : Expr := behindAny (both (word "*/".toList) atEnd)

def logCall : Expr :=
  indented (both (word "Log.".toList) (both (one isNotLineFeed) (word "(".toList)))

def textField : Expr :=
  behindAny (both (either (word "public".toList) (word "private".toList))
    (both (one isBlank) (either (word "String".toList) (word "List".toList))))

def exclusion : Expr :=
  either commentStart (either commentLine (either commentEnd (either logCall textField)))

section Matching
variable {whole : List Char} {l : TextLine}

theorem exists_mem_ends_word {w cs : List Char} :
    (∃ rest, rest ∈ (word w).ends whole cs) ↔ w <+: cs :=
  exists_congr fun _ => mem_ends_word.trans eq_comm

/-- Blanks in front are passed over in one way only if something else has to follow. -/
theorem exists_mem_ends_indented {e : Expr}
    (hfirst : ∀ middle rest, rest ∈ e.ends whole middle →
      ∃ c tail, middle = c :: tail ∧ isBlank c = false) :
    (∃ rest, rest ∈ (indented e).ends whole whole) ↔
      ∃ rest, rest ∈ e.ends whole (whole.dropWhile isBlank) := by
  constructor
  · rintro ⟨rest, h⟩
    obtain ⟨front, hfront, h⟩ := mem_ends_both.mp h
    obtain ⟨rfl, -⟩ := mem_ends_atFront.mp hfront
    obtain ⟨middle, hmany, hrest⟩ := mem_ends_both.mp h
    obtain ⟨run, hwhole, hrun⟩ := mem_ends_many_one.mp hmany
    obtain ⟨c, tail, rfl, hc⟩ := hfirst middle rest hrest
    have hdrop : front.dropWhile isBlank = c :: tail := by
      rw [hwhole, List.dropWhile_append_of_pos hrun,
        List.dropWhile_cons_of_neg (Bool.not_eq_true _ ▸ hc)]
    exact ⟨rest, hdrop ▸ hrest⟩
  · rintro ⟨rest, hrest⟩
    refine ⟨rest, mem_ends_both.mpr ⟨whole, mem_ends_atFront.mpr ⟨rfl, rfl⟩,
      mem_ends_both.mpr ⟨whole.dropWhile isBlank, mem_ends_many_one.mpr ?_, hrest⟩⟩⟩
    exact ⟨whole.takeWhile isBlank, List.takeWhile_append_dropWhile.symm,
      fun c hc => List.mem_takeWhile_imp hc⟩

theorem exists_mem_ends_indented_word {c : Char} {w : List Char} (hc : isBlank c = false) :
    (∃ rest, rest ∈ (indented (word (c :: w))).ends whole whole) ↔
      c :: w <+: whole.dropWhile isBlank := by
  rw [exists_mem_ends_indented, exists_mem_ends_word]
  intro middle rest h
  exact ⟨c, w ++ rest, mem_ends_word.mp h, hc⟩

theorem exists_mem_ends_indented_either {first second : Expr} :
    (∃ rest, rest ∈ (indented (either first second)).ends whole whole) ↔
      (∃ rest, rest ∈ (indented first).ends whole whole) ∨
        ∃ rest, rest ∈ (indented second).ends whole whole := by
  simp only [indented, mem_ends_both, mem_ends_either, and_or_left, exists_or]

theorem isNotLineFeed_of_mem (h : '\n' ∉ l.stem) {c : Char} (hc : c ∈ l.stem) :
    isNotLineFeed c = true := by
  rw [isNotLineFeed, bne_iff_ne]
  rintro rfl
  exact h hc

theorem logCall_prefix_iff (h : '\n' ∉ l.stem) :
    (∃ c, isNotLineFeed c = true ∧
        "Log.".toList ++ c :: "(".toList <+: l.full.dropWhile isBlank) ↔
      ∃ c ∈ l.stem, "Log.".toList ++ c :: "(".toList <+: l.stem.dropWhile isBlank := by
  refine exists_congr fun c => ?_
  rw [Text.prefix_unindented_iff (by simp)]
  refine and_congr_left fun hstarts => ?_
  have hmem : c ∈ l.stem := (List.dropWhile_sublist _).subset (hstarts.subset (by simp))
  exact iff_of_true (isNotLineFeed_of_mem h hmem) hmem

theorem exists_mem_ends_logCall :
    (∃ rest, rest ∈ logCall.ends whole whole) ↔
      ∃ c, isNotLineFeed c = true ∧
        "Log.".toList ++ c :: "(".toList <+: whole.dropWhile isBlank := by
  rw [logCall, exists_mem_ends_indented]
  · constructor
    · rintro ⟨rest, hrest⟩
      obtain ⟨middle, hlog, hbehind⟩ := mem_ends_both.mp hrest
      obtain ⟨after, hone, hopen⟩ := mem_ends_both.mp hbehind
      obtain ⟨c, rfl, hc⟩ := mem_ends_one.mp hone
      exact ⟨c, hc, rest, by rw [mem_ends_word.mp hlog, mem_ends_word.mp hopen]; simp⟩
    · rintro ⟨c, hc, rest, hrest⟩
      refine ⟨rest, mem_ends_both.mpr ⟨c :: ("(".toList ++ rest), mem_ends_word.mpr ?_,
        mem_ends_both.mpr ⟨_, mem_ends_one.mpr ⟨c, rfl, hc⟩, mem_ends_word.mpr rfl⟩⟩⟩
      rw [← hrest]
      simp
  · intro middle rest hrest
    obtain ⟨after, hlog, -⟩ := mem_ends_both.mp hrest
    exact ⟨'L', 'o' :: 'g' :: '.' :: after, mem_ends_word.mp hlog, by decide⟩

theorem exists_mem_ends_commentEnd (h : '\n' ∉ l.stem) :
    (∃ rest, rest ∈ commentEnd.ends l.full l.full) ↔ "*/".toList <:+ l.stem := by
  constructor
  · rintro ⟨rest, hrest⟩
    obtain ⟨middle, hmany, hrest⟩ := mem_ends_both.mp hrest
    obtain ⟨run, hfull, -⟩ := mem_ends_many_one.mp hmany
    obtain ⟨tail, hword, hend⟩ := mem_ends_both.mp hrest
    obtain ⟨-, htail⟩ := mem_ends_atEnd.mp hend
    rw [mem_ends_word.mp hword, ← List.append_assoc] at hfull
    -- a line feed stands behind the comment exactly if one ends the line
    obtain ⟨stem, ended⟩ := l
    refine ⟨run, ?_⟩
    cases ended with
    | false =>
      rw [TextLine.full, if_neg Bool.false_ne_true, List.append_nil] at hfull
      rcases htail with rfl | rfl
      · rw [hfull, List.append_nil]
      · exact absurd (hfull ▸ List.mem_append_right _ List.mem_cons_self) h
    | true =>
      rw [TextLine.full, if_pos rfl] at hfull
      rcases htail with rfl | rfl
      · have hlast := congrArg List.getLast? hfull
        rw [List.getLast?_concat] at hlast
        simp at hlast
      · exact (List.append_inj_left' hfull rfl).symm
  · rintro ⟨run, hstem⟩
    have hrun : ∀ c ∈ run, isNotLineFeed c = true := fun c hc =>
      isNotLineFeed_of_mem h (hstem ▸ List.mem_append_left _ hc)
    refine ⟨if l.ended then ['\n'] else [], mem_ends_both.mpr ⟨_, mem_ends_many_one.mpr
      ⟨run, ?_, hrun⟩, mem_ends_both.mpr ⟨_, mem_ends_word.mpr rfl, mem_ends_atEnd.mpr ⟨rfl, ?_⟩⟩⟩⟩
    · rw [TextLine.full, ← hstem, List.append_assoc]
    · split
      · exact .inr rfl
      · exact .inl rfl

theorem mem_ends_either_word {a b : String} {cs rest : List Char} :
    rest ∈ (either (word a.toList) (word b.toList)).ends whole cs ↔
      ∃ w ∈ [a, b], cs = w.toList ++ rest := by
  simp [mem_ends_either, mem_ends_word]

theorem field_infix_iff {access type : String} (htype : type ∈ ["String", "List"]) {c : Char} :
    access.toList ++ c :: type.toList <:+: l.full ↔
      access.toList ++ c :: type.toList <:+: l.stem := by
  refine Text.infix_full_iff ?_
  rcases List.mem_cons.mp htype with rfl | htype
  · simp
  · obtain rfl := List.mem_singleton.mp htype
    simp

theorem exists_mem_ends_textField (h : '\n' ∉ l.stem) :
    (∃ rest, rest ∈ textField.ends l.full l.full) ↔
      ∃ access ∈ ["public", "private"], ∃ type ∈ ["String", "List"], ∃ c ∈ l.stem,
        isBlank c = true ∧ access.toList ++ c :: type.toList <:+: l.stem := by
  constructor
  · rintro ⟨rest, hrest⟩
    obtain ⟨middle, hmany, hfield⟩ := mem_ends_both.mp hrest
    obtain ⟨run, hfull, -⟩ := mem_ends_many_one.mp hmany
    obtain ⟨behind, hfirst, hbehind⟩ := mem_ends_both.mp hfield
    obtain ⟨after, hone, hafter⟩ := mem_ends_both.mp hbehind
    obtain ⟨access, haccess, rfl⟩ := mem_ends_either_word.mp hfirst
    obtain ⟨c, rfl, hc⟩ := mem_ends_one.mp hone
    obtain ⟨type, htype, rfl⟩ := mem_ends_either_word.mp hafter
    have hheld : access.toList ++ c :: type.toList <:+: l.full := ⟨run, rest, by simp [hfull]⟩
    have hstem := (field_infix_iff htype).mp hheld
    exact ⟨access, haccess, type, htype, c, hstem.subset (by simp), hc, hstem⟩
  · rintro ⟨access, haccess, type, htype, c, -, hc, run, rest, hstem⟩
    have hrun : ∀ d ∈ run, isNotLineFeed d = true := fun d hd =>
      isNotLineFeed_of_mem h (hstem ▸ by simp [hd])
    refine ⟨rest ++ if l.ended then ['\n'] else [], mem_ends_both.mpr ⟨_, mem_ends_many_one.mpr
      ⟨run, ?_, hrun⟩, mem_ends_both.mpr ⟨_, mem_ends_either_word.mpr ⟨access, haccess, rfl⟩,
      mem_ends_both.mpr ⟨_, mem_ends_one.mpr ⟨c, rfl, hc⟩,
        mem_ends_either_word.mpr ⟨type, htype, rfl⟩⟩⟩⟩⟩
    rw [TextLine.full, ← hstem]
    simp

/-- One of the expressions matches exactly if the line is to be left out. -/
theorem matchesFront_exclusion_iff (h : '\n' ∉ l.stem) :
    exclusion.matchesFront l.full = true ↔ IsExcluded l.stem := by
  have hstart : (∃ rest, rest ∈ commentStart.ends l.full l.full) ↔
      "//".toList <+: l.stem.dropWhile isBlank ∨ "/*".toList <+: l.stem.dropWhile isBlank := by
    rw [commentStart, exists_mem_ends_indented_either]
    exact or_congr
      ((exists_mem_ends_indented_word (by decide)).trans (Text.prefix_unindented_iff (by decide)))
      ((exists_mem_ends_indented_word (by decide)).trans (Text.prefix_unindented_iff (by decide)))
  have hline : (∃ rest, rest ∈ commentLine.ends l.full l.full) ↔
      "*".toList <+: l.stem.dropWhile isBlank :=
    (exists_mem_ends_indented_word (by decide)).trans (Text.prefix_unindented_iff (by decide))
  rw [matchesFront_iff, exclusion]
  simp only [mem_ends_either, exists_or]
  rw [hstart, hline, exists_mem_ends_commentEnd h, exists_mem_ends_logCall, logCall_prefix_iff h,
    exists_mem_ends_textField h, IsExcluded]
  simp only [List.mem_cons, List.not_mem_nil, or_false, exists_eq_or_imp, exists_eq_left, or_assoc]

end Matching

/-! What is left out of a search. -/

section Search
variable {l : TextLine}

theorem plain_of_mem {words : List String} (h : (words.all fun w => w.toList.all fun c =>
    !isReserved c) = true) {w : String} (hw : w ∈ words) :
    ∀ c ∈ w.toList, isReserved c = false := by
  intro c hc
  simpa using List.all_eq_true.mp (List.all_eq_true.mp h w hw) c hc

theorem startsWith_ofChars_iff {word cs : List Char} (h : ∀ c ∈ word, isReserved c = false) :
    Text.startsWith word (ofChars cs) = true ↔ word <+: cs := by
  have hiff : ofChars word <+: ofChars cs ↔ word <+: cs := Text.prefix_ofChars_iff
  rwa [Text.ofChars_of_plain h, ← Text.startsWith_iff] at hiff

theorem firstLine_ofChars (h : '\n' ∉ l.stem) :
    Pattern.firstLine (ofChars l.full) = ofChars l.stem := by
  have hstem : ∀ c ∈ ofChars l.stem, (c != '\n') = true := fun c hc =>
    bne_iff_ne.mpr fun heq => h ((Text.mem_ofChars_iff (by decide)).mp (heq ▸ hc))
  have hend : (ofChars (if l.ended then ['\n'] else [])).takeWhile (· != '\n') = [] := by
    cases l.ended <;> rfl
  rw [Pattern.firstLine, TextLine.full, Text.ofChars_append, List.takeWhile_append_of_pos hstem,
    hend, List.append_nil]

theorem afterEach_field_iff {access type : String} (haccess : access ∈ ["public", "private"])
    (htype : type ∈ ["String", "List"]) {cs : List Char} :
    (afterEach (exactly access ++ [isBlank] ++ exactly type)
        (ofChars cs)).isSome = true ↔
      ∃ c, isBlank c = true ∧ access.toList ++ c :: type.toList <+: cs :=
  Pattern.afterEach_around_iff (plain_of_mem (by decide) haccess) (plain_of_mem (by decide) htype)
    fun _ hc => (isBlank_of_reserved isReserved_selfMark).trans
      (isBlank_of_reserved hc).symm

theorem anySuffix_field_iff :
    Pattern.anySuffix (fun suffix => ["public", "private"].any fun access =>
        ["String", "List"].any fun type => (afterEach
          (exactly access ++ [isBlank] ++ exactly type) suffix).isSome)
      (ofChars l.full) = true ↔
      ∃ access ∈ ["public", "private"], ∃ type ∈ ["String", "List"], ∃ c ∈ l.stem,
        isBlank c = true ∧ access.toList ++ c :: type.toList <:+: l.stem := by
  rw [Pattern.anySuffix_ofChars_iff]
  · simp only [List.any_eq_true]
    constructor
    · rintro ⟨rest, hrest, access, haccess, type, htype, hfield⟩
      obtain ⟨c, hc, hstarts⟩ := (afterEach_field_iff haccess htype).mp hfield
      have hstem := (field_infix_iff htype).mp (hstarts.isInfix.trans hrest.isInfix)
      exact ⟨access, haccess, type, htype, c, hstem.subset (by simp), hc, hstem⟩
    · rintro ⟨access, haccess, type, htype, c, -, hc, hstem⟩
      obtain ⟨rest, hstarts, hrest⟩ :=
        List.infix_iff_prefix_suffix.mp ((field_infix_iff htype).mpr hstem)
      exact ⟨rest, hrest, access, haccess, type, htype,
        (afterEach_field_iff haccess htype).mpr ⟨c, hc, hstarts⟩⟩
  · intro c tail hc
    rw [List.any_eq_false]
    intro access haccess
    have hne : access.toList ≠ [] := by
      rcases List.mem_cons.mp haccess with rfl | haccess
      · decide
      · obtain rfl := List.mem_singleton.mp haccess
        decide
    simp only [List.append_assoc, Pattern.afterEach_exactly_of_reserved hne
      (plain_of_mem (by decide) haccess) _ hc]
    decide

theorem isExempt_ofChars_iff (h : '\n' ∉ l.stem) :
    isExempt (ofChars l.full) = true ↔ IsExcluded l.stem := by
  have hrest : (ofChars l.full).dropWhile isBlank = ofChars (l.full.dropWhile isBlank) :=
    Text.dropWhile_ofChars (fun c => isBlank_of_reserved) l.full
  have hword : ∀ word ∈ ["//", "/*", "*"],
      Text.startsWith word.toList (ofChars (l.full.dropWhile isBlank)) = true ↔
        word.toList <+: l.stem.dropWhile isBlank := fun word hmem => by
    rw [startsWith_ofChars_iff (plain_of_mem (by decide) hmem)]
    refine Text.prefix_unindented_iff ?_
    simp only [List.mem_cons, List.not_mem_nil, or_false] at hmem
    rcases hmem with rfl | rfl | rfl
    all_goals decide
  have hplain : ∀ word ∈ ["*/", "Log.", "("], ∀ c ∈ word.toList, isReserved c = false :=
    fun word hmem => plain_of_mem (by decide) hmem
  have hend : Text.endsWith "*/".toList (Pattern.firstLine (ofChars l.full)) = true ↔
      "*/".toList <:+ l.stem := by
    rw [Text.endsWith, Text.startsWith_iff, List.reverse_prefix, firstLine_ofChars h,
      Text.suffix_ofChars_iff_of_plain (hplain _ (by simp))]
  have hlog : (afterEach (exactly "Log." ++ [isNotLineFeed] ++
        exactly "(") (ofChars (l.full.dropWhile isBlank))).isSome = true ↔
      ∃ c ∈ l.stem, "Log.".toList ++ c :: "(".toList <+: l.stem.dropWhile isBlank := by
    rw [Pattern.afterEach_around_iff (hplain _ (by simp)) (hplain _ (by simp)),
      logCall_prefix_iff h]
    intro c hc
    have hfeed : isReserved '\n' = false := by decide
    rw [isNotLineFeed, isNotLineFeed, bne_iff_ne.mpr (ne_of_reserved hc hfeed),
      bne_iff_ne.mpr (ne_of_reserved isReserved_selfMark hfeed)]
  simp only [isExempt, hrest, Bool.or_eq_true]
  rw [hword _ (by simp), hword _ (by simp), hword _ (by simp), hend, hlog, anySuffix_field_iff,
    IsExcluded]
  simp only [List.mem_cons, List.not_mem_nil, or_false, exists_eq_or_imp, exists_eq_left, or_assoc]

end Search

/-- The lines of a file that hold a word are those with the word that are not left out, in the order
of the file. The word is found by its expression, and what is left out is what one of the expressions
for it matches. -/
theorem linesIn_literal (fs : FileSystem) (path : Option String) (text : String) (word : List Char)
    (hfile : fs.bytesAt path = .ok text.toUTF8) :
    (literal (String.ofList (ofChars word))).linesIn fs path (some .utf8) =
        ((textLines (unifyNewlines text.toList)).filter fun l =>
          word <:+: l.full ∧ ¬IsExcluded l.stem).map (fun l => String.ofList (ofChars l.full)) ∧
      ∀ l ∈ textLines (unifyNewlines text.toList),
        (((Pattern.Expr.word word).search l.full).isSome = true ↔ word <:+: l.full) ∧
          (exclusion.matchesFront l.full = true ↔ IsExcluded l.stem) := by
  constructor
  · have hlines : Text.Encoding.utf8.linesOf text.toUTF8 =
        ((textLines (unifyNewlines text.toList)).map TextLine.full).map ofChars := by
      rw [← Text.linesKept_eq, ← Text.linesRead, ← Text.linesRead_ofChars]
      exact Text.utf8Lines_toUTF8 text
    have hkeeps : ∀ l ∈ textLines (unifyNewlines text.toList),
        (literal (String.ofList (ofChars word))).keeps (ofChars l.full) =
          decide (word <:+: l.full ∧ ¬IsExcluded l.stem) := by
      intro l hl
      have hfound : (literal (String.ofList (ofChars word))).occursIn (ofChars l.full) = true ↔
          word <:+: l.full := by
        rw [occursIn, String.toList_ofList, Text.occurs_iff, Text.infix_ofChars_iff]
      have hexempt := isExempt_ofChars_iff (Text.feed_not_mem_stem hl)
      rw [Bool.eq_iff_iff, keeps, Bool.and_eq_true, Bool.not_eq_true', ← Bool.not_eq_true, hfound,
        hexempt, decide_eq_true_eq]
    rw [linesIn, hfile]
    simp only [Option.map_some, Option.getD_some, hlines]
    rw [List.map_map, List.filter_map, List.map_map]
    exact congrArg _ (List.filter_congr hkeeps)
  · exact fun l hl => ⟨Pattern.Expr.search_word_isSome_iff,
      matchesFront_exclusion_iff (Text.feed_not_mem_stem hl)⟩

/-- A word on lines of each kind, of which the first has a return in front of its line feed. -/
def heldLines : String :=
  "a = key;\r\n\x0b// key\n Log.d(key);\nkey */\nmy private\x0cList key;\nprivate  List key;\n*\nkey"

theorem linesIn_literal_key :
    (literal (String.ofList (ofChars "key".toList))).linesIn (.oneJava heldLines) (some "A.java")
      (some .utf8) = ["a = key;\n", "private  List key;\n", "key"] := by
  have hbytes := FileSystem.bytesAt_of_readBytes (FileSystem.readBytes_oneJava heldLines)
  rw [(linesIn_literal (.oneJava heldLines) (some "A.java") heldLines "key".toList hbytes).1]
  decide +kernel

end LinePattern
end DroidAudit
