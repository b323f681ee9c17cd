import DroidAudit.Observation
import DroidAudit.Proofs.Numeral

/-! Words that look like keys. The search looks ahead from every place of a word, but whatever comes
into view from a later place comes into view from the first one too, so a word is reported or not by
its length and by the characters behind its first one. A low line counts as a special character, so
only a hyphen can make a key. -/
namespace DroidAudit

namespace Text

def behindFirst (cs : List Char) : List Char := (cut 1 cs).2

theorem behindFirst_cons (c : Char) (cs : List Char) :
    behindFirst (c :: cs) = if c == selfMark then cs.drop 1 else cs := by
  simp only [behindFirst, cut]
  split <;> rfl

theorem length_cons (c : Char) (cs : List Char) :
    length (c :: cs) = length (behindFirst (c :: cs)) + 1 := by
  cases cs with
  | nil =>
    rw [behindFirst_cons]
    split <;> rfl
  | cons d cs =>
    rw [behindFirst_cons, length, points]
    split <;> rfl

theorem behindFirst_subset (cs : List Char) : behindFirst cs ⊆ cs := by
  cases cs with
  | nil => exact List.Subset.refl _
  | cons c cs =>
    rw [behindFirst_cons]
    split
    · exact List.Subset.trans (List.drop_subset 1 cs) (List.subset_cons_self c cs)
    · exact List.subset_cons_self c cs

/-- What stands behind the first character of an end stands behind the first one of the whole. -/
theorem behindFirst_suffix (c : Char) (cs : List Char) :
    behindFirst cs <:+ behindFirst (c :: cs) := by
  have htail (d : Char) (ds : List Char) : behindFirst (d :: ds) <:+ ds := by
    rw [behindFirst_cons]
    split
    · exact List.drop_suffix 1 ds
    · exact List.suffix_refl ds
  rw [behindFirst_cons c]
  cases cs with
  | nil => exact List.nil_suffix
  | cons d ds =>
    split
    · exact htail d ds
    · exact (htail d ds).trans (List.suffix_cons d ds)

theorem length_le_cons (c : Char) : ∀ cs : List Char, length cs ≤ length (c :: cs)
  | [] => Nat.zero_le _
  | [d] => by
    rw [length_cons c, length_cons d]
    have hnil : behindFirst [d] = [] := by
      rw [behindFirst_cons]
      split <;> rfl
    rw [hnil]
    exact Nat.succ_le_succ (Nat.zero_le _)
  | d :: e :: es => by
    -- A mark takes the next character with it, which may be a mark for the one behind it.
    have hnext := length_le_cons e es
    rw [length_cons c, behindFirst_cons]
    split
    · rw [length_cons d, behindFirst_cons]
      split
      · exact Nat.succ_le_succ hnext
      · exact Nat.le_refl _
    · exact Nat.le_succ _

theorem wordsFrom_eq (word cs : List Char) :
    wordsFrom word cs = (cs.splitOnPPrepend isBlank word).filter (!·.isEmpty) := by
  induction cs generalizing word with
  | nil =>
    rw [wordsFrom, List.splitOnPPrepend]
    cases word <;> simp
  | cons c cs ih =>
    rw [wordsFrom, List.splitOnPPrepend]
    split
    · rw [ih]
      cases word <;> simp
    · rw [ih]

theorem words_eq (cs : List Char) : words cs = (cs.splitOnP isBlank).filter (!·.isEmpty) :=
  wordsFrom_eq [] cs

theorem numbered_eq {α : Type} (n : Nat) (as : List α) :
    numbered n as = (as.zipIdx n).map Prod.swap := by
  induction as generalizing n with
  | nil => rfl
  | cons a as ih =>
    rw [numbered, ih, List.zipIdx_cons, List.map_cons]
    rfl

theorem not_isBlank_of_mem_wordsFrom {word cs : List Char} (hword : ∀ c ∈ word, isBlank c = false) :
    ∀ w ∈ wordsFrom word cs, ∀ c ∈ w, isBlank c = false := by
  have hdone : ∀ c ∈ word.reverse, isBlank c = false := fun c hc => hword c (List.mem_reverse.mp hc)
  induction cs generalizing word with
  | nil =>
    rw [wordsFrom]
    split
    · simp
    · simpa using hdone
  | cons d cs ih =>
    have hnone := @ih [] (by simp) (by simp)
    rw [wordsFrom]
    split
    · split
      · exact hnone
      · exact List.forall_mem_cons.mpr ⟨hdone, hnone⟩
    · rename_i hd
      have hnew : ∀ c ∈ d :: word, isBlank c = false :=
        List.forall_mem_cons.mpr ⟨Bool.eq_false_iff.mpr hd, hword⟩
      exact ih hnew fun c hc => hnew c (List.mem_reverse.mp hc)

theorem lineFeed_not_mem_words {cs word : List Char} (h : word ∈ words cs) : '\n' ∉ word := by
  intro hmem
  have hblank := not_isBlank_of_mem_wordsFrom (fun c hc => absurd hc List.not_mem_nil) word h _ hmem
  exact absurd hblank (by decide)

theorem startsWith_iff (word cs : List Char) : startsWith word cs = true ↔ word <+: cs := by
  induction word generalizing cs with
  | nil => simp [startsWith, after?]
  | cons w ws ih =>
    cases cs with
    | nil => simp [startsWith, after?]
    | cons c cs =>
      rw [startsWith, after?, List.cons_prefix_cons, ← ih cs]
      by_cases hc : w = c <;> simp [hc, startsWith]

theorem hasSuffix_iff (text ending : String) :
    hasSuffix text ending = true ↔ ending.toList <:+ text.toList := by
  rw [hasSuffix, endsWith, startsWith_iff, List.reverse_prefix]

end Text

namespace Pattern

variable {word : List Char}

theorem afterEach_next {c : Char} (hc : c ≠ '\n') (cs : List Char) (tests : List (Char → Bool)) :
    afterEach (isNotLineFeed :: tests) (c :: cs) =
      afterEach tests (Text.behindFirst (c :: cs)) := by
  have htest : isNotLineFeed c = true := by simpa [isNotLineFeed] using hc
  rw [afterEach, if_pos htest, Text.behindFirst_cons]

theorem showsMany_eq (n : Nat) (h : '\n' ∉ word) :
    showsMany n word = decide (n ≤ Text.length word) := by
  induction n generalizing word with
  | zero => simp [showsMany, afterEach]
  | succ n ih =>
    cases word with
    | nil => rfl
    | cons c cs =>
      have hrest := ih (fun hmem => h (Text.behindFirst_subset (c :: cs) hmem))
      rw [showsMany] at hrest ⊢
      rw [List.replicate_succ, afterEach_next (List.ne_of_not_mem_cons h).symm, hrest,
        Text.length_cons]
      exact decide_eq_decide.mpr Nat.succ_le_succ_iff.symm

theorem lineHas_eq (test : Char → Bool) (h : '\n' ∉ word) : lineHas test word = word.any test := by
  induction word with
  | nil => rfl
  | cons c cs ih =>
    rw [List.mem_cons, not_or] at h
    have hc : isNotLineFeed c = true := by simpa [isNotLineFeed] using Ne.symm h.1
    rw [lineHas, hc, Bool.true_and, ih h.2, List.any_cons]

theorem showsBehind_eq (test : Char → Bool) (h : '\n' ∉ word) :
    showsBehind test word = (Text.behindFirst word).any test := by
  cases word with
  | nil => rfl
  | cons c cs =>
    rw [showsBehind, afterEach_next (List.ne_of_not_mem_cons h).symm, afterEach, Option.any_some,
      lineHas_eq test fun hmem => h (Text.behindFirst_subset (c :: cs) hmem)]

/-- A search finds nothing new at later places if whatever it finds there it finds from the place in
front too. -/
theorem anySuffix_eq {test : List Char → Bool}
    (hgrows : ∀ c cs, '\n' ∉ c :: cs → test cs = true → test (c :: cs) = true) (h : '\n' ∉ word) :
    anySuffix test word = test word := by
  induction word with
  | nil => rfl
  | cons c cs ih =>
    rw [anySuffix, ih fun hmem => h (List.mem_cons_of_mem c hmem)]
    cases hcs : test cs with
    | false => rw [Bool.or_false]
    | true => rw [hgrows c cs h hcs, Bool.or_true]

theorem showsMany_grows (n : Nat) {c : Char} {cs : List Char} (h : '\n' ∉ c :: cs)
    (hcs : showsMany n cs = true) : showsMany n (c :: cs) = true := by
  rw [showsMany_eq n fun hmem => h (List.mem_cons_of_mem c hmem), decide_eq_true_eq] at hcs
  rw [showsMany_eq n h, decide_eq_true_eq]
  exact hcs.trans (Text.length_le_cons c cs)

theorem showsBehind_grows (test : Char → Bool) {c : Char} {cs : List Char} (h : '\n' ∉ c :: cs)
    (hcs : showsBehind test cs = true) : showsBehind test (c :: cs) = true := by
  rw [showsBehind_eq test fun hmem => h (List.mem_cons_of_mem c hmem), List.any_eq_true] at hcs
  rw [showsBehind_eq test h, List.any_eq_true]
  obtain ⟨d, hd, htest⟩ := hcs
  exact ⟨d, (Text.behindFirst_suffix c cs).subset hd, htest⟩

theorem hasSpecialCharacter_eq (h : '\n' ∉ word) :
    hasSpecialCharacter word = (Text.behindFirst word).any specialCharacters.contains := by
  rw [hasSpecialCharacter, anySuffix_eq (fun c cs => showsBehind_grows _) h, showsBehind_eq _ h]

theorem looksLikeKey_eq (h : '\n' ∉ word) :
    looksLikeKey word = (decide (20 ≤ Text.length word) &&
      (Text.behindFirst word).any Text.isDecimal && (Text.behindFirst word).any isSmall &&
        (Text.behindFirst word).any isCapital &&
          (Text.behindFirst word).any fun c => c == '-' || c == '_') := by
  rw [looksLikeKey, anySuffix_eq ?_ h]
  · simp only [showsMany_eq 20 h, showsBehind_eq _ h]
  · intro c cs hline hcs
    simp only [Bool.and_eq_true] at hcs ⊢
    obtain ⟨⟨⟨⟨hmany, hdigit⟩, hsmall⟩, hcapital⟩, hhyphen⟩ := hcs
    exact ⟨⟨⟨⟨showsMany_grows 20 hline hmany, showsBehind_grows _ hline hdigit⟩,
      showsBehind_grows _ hline hsmall⟩, showsBehind_grows _ hline hcapital⟩,
      showsBehind_grows _ hline hhyphen⟩

end Pattern

namespace ContentDetector

structure IsKey (word : List Char) : Prop where
  long : 20 ≤ Text.length word
  digit : (Text.behindFirst word).any Text.isDecimal = true
  small : (Text.behindFirst word).any Pattern.isSmall = true
  capital : (Text.behindFirst word).any Pattern.isCapital = true
  hyphen : (Text.behindFirst word).contains '-' = true
  plain : (Text.behindFirst word).any Pattern.specialCharacters.contains = false

instance (word : List Char) : Decidable (IsKey word) :=
  decidable_of_iff
    (20 ≤ Text.length word ∧ (Text.behindFirst word).any Text.isDecimal = true ∧
      (Text.behindFirst word).any Pattern.isSmall = true ∧
      (Text.behindFirst word).any Pattern.isCapital = true ∧
      (Text.behindFirst word).contains '-' = true ∧
      (Text.behindFirst word).any Pattern.specialCharacters.contains = false)
    ⟨fun ⟨long, digit, small, capital, hyphen, plain⟩ =>
      ⟨long, digit, small, capital, hyphen, plain⟩,
     fun ⟨long, digit, small, capital, hyphen, plain⟩ =>
      ⟨long, digit, small, capital, hyphen, plain⟩⟩

theorem IsKey.low_line_not_mem {word : List Char} (h : IsKey word) :
    '_' ∉ Text.behindFirst word := by
  intro hmem
  exact absurd (by decide : Pattern.specialCharacters.contains '_' = true)
    (List.any_eq_false.mp h.plain '_' hmem)

theorem isKey_iff {word : List Char} (h : '\n' ∉ word) :
    (Pattern.looksLikeKey word && !Pattern.hasSpecialCharacter word) = true ↔ IsKey word := by
  rw [Pattern.looksLikeKey_eq h, Pattern.hasSpecialCharacter_eq h]
  simp only [Bool.and_eq_true, Bool.not_eq_true', decide_eq_true_eq]
  constructor
  · rintro ⟨⟨⟨⟨⟨long, digit⟩, small⟩, capital⟩, mark⟩, plain⟩
    refine ⟨long, digit, small, capital, ?_, plain⟩
    -- A low line would be a special character.
    obtain ⟨c, hc, hmark⟩ := List.any_eq_true.mp mark
    have hlow : c ≠ '_' := by
      rintro rfl
      exact absurd (by decide) (List.any_eq_false.mp plain '_' hc)
    have hhyphen : c = '-' := by simpa [hlow] using hmark
    simpa [hhyphen] using hc
  · rintro ⟨long, digit, small, capital, hyphen, plain⟩
    refine ⟨⟨⟨⟨⟨long, digit⟩, small⟩, capital⟩, ?_⟩, plain⟩
    exact List.any_eq_true.mpr ⟨'-', List.contains_iff_mem.mp hyphen, rfl⟩

/-- What is reported of a text: each key between blanks, in the order of lines and words, with the
number of its line. -/
def keyFindings (path contents : String) : List Finding :=
  (contents.toList.splitOn '\n').zipIdx.flatMap fun (line, number) =>
    ((line.splitOnP Text.isBlank).filter fun word => IsKey word).map fun _ =>
      onLine keyNotice (some path) number

theorem filter_words (line : List Char) :
    ((Text.words line).filter fun word =>
        Pattern.looksLikeKey word && !Pattern.hasSpecialCharacter word) =
      (line.splitOnP Text.isBlank).filter fun word => IsKey word := by
  have hkey : ∀ word ∈ Text.words line,
      (Pattern.looksLikeKey word && !Pattern.hasSpecialCharacter word) = decide (IsKey word) := by
    intro word hword
    rw [Bool.eq_iff_iff, isKey_iff (Text.lineFeed_not_mem_words hword), decide_eq_true_eq]
  rw [List.filter_congr hkey, Text.words_eq, List.filter_filter]
  refine List.filter_congr fun word _ => ?_
  cases word with
  | nil => rfl
  | cons c cs => rw [List.isEmpty_cons, Bool.not_false, Bool.and_true]

theorem keys_eq {s : Sight} {path contents : String} (hpath : s.path = some path)
    (hcontents : s.contents = some contents)
    (hsearched : ∀ e ∈ binaryExtensions, ¬e.toList <:+ path.toList) :
    keys s = .ok (keyFindings path contents) := by
  have hnone : binaryExtensions.any (Text.hasSuffix path) = false := by
    rw [List.any_eq_false]
    intro e he
    rw [Text.hasSuffix_iff]
    exact hsearched e he
  rw [keys, hpath, hcontents]
  simp only [hnone, Bool.false_eq_true, if_false, filter_words]
  rw [Text.numbered_eq, List.flatMap_map, Text.lines, Text.splitAt_eq_splitOn]
  rfl

/-- A run on a text that is searched adds one finding for each word that is a key, and a word with a
low line behind its first character is none. -/
theorem keys_run_adds (o : Observer) (w : Surroundings) (s : Shared) {path contents : String}
    (hdetector : o.detector = .contentKeys) (hpath : o.path s = some path)
    (hcontents : o.contents s = some contents)
    (hsearched : ∀ e ∈ binaryExtensions, ¬e.toList <:+ path.toList) :
    o.run w s = ({ o with findings := o.findings ++ keyFindings path contents }, none) ∧
      ∀ word, '_' ∈ Text.behindFirst word → ¬IsKey word := by
  refine ⟨?_, fun word hlow hkey => hkey.low_line_not_mem hlow⟩
  have hkeys : keys (o.sight s) = .ok (keyFindings path contents) :=
    keys_eq hpath hcontents hsearched
  rw [Observer.run, hdetector, Detector.run]
  simp only [hkeys, Detector.plainly]

/-- An observer of a file with five words, a no-break space among the blanks. -/
def wordObserver : Observer where
  detector := .contentKeys
  facts :=
    { path := some (some "Main.java")
      contents := some (some
        ("x\naB3-aB3-aB3-aB3-aB3- aB3_aB3-aB3-aB3-aB3-\u00a0-aB3aB3aB3aB3aB3aB3a\n" ++
          "\taB3-aB3-aB3-aB3-aB3 _B3a-B3a-B3a-B3a-B3a")) }

/-- Two of the words are keys, one of them with a low line in front. One with a low line inside, one
with its only hyphen in front and one that is too short are none. -/
theorem keys_run_adds_two :
    wordObserver.run ⟨⟨.directory [], []⟩, {}⟩ {} =
      ({ wordObserver with
          findings :=
            [onLine keyNotice (some "Main.java") 1, onLine keyNotice (some "Main.java") 2] },
        none) := by
  rw [(keys_run_adds wordObserver ⟨⟨.directory [], []⟩, {}⟩ {} rfl rfl rfl (by decide)).1]
  rfl

end ContentDetector
end DroidAudit
