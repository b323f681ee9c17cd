import DroidAudit.Proofs.KeyWords
import DroidAudit.Proofs.WrittenText

/-! Searching a text in which some private characters stand behind a mark. An end of such a text may
begin between a mark and its character, where nothing begins in the text that is meant. Main
statements: lines, blanks and words are found in the marked text exactly where they stand in the text
that is meant. -/
namespace DroidAudit

namespace Text

variable {c : Char} {cs s tail : List Char}

theorem isReserved_selfMark : isReserved selfMark = true := by decide

theorem ne_of_reserved {d : Char} (hc : isReserved c = true) (hd : isReserved d = false) :
    c ≠ d := by
  rintro rfl
  rw [hc] at hd
  cases hd

theorem ofChars_nil : ofChars [] = [] := rfl

theorem ofChars_cons (c : Char) (cs : List Char) :
    ofChars (c :: cs) = if isReserved c then selfMark :: c :: ofChars cs else c :: ofChars cs := by
  rw [ofChars_eq_flatMap, List.flatMap_cons, ← ofChars_eq_flatMap, ofChar]
  split
  · rfl
  · rfl

/-- An end of a marked text is one of the text that is meant, or begins behind a mark. -/
theorem suffix_ofChars_iff :
    tail <:+ ofChars cs ↔ (∃ rest, rest <:+ cs ∧ tail = ofChars rest) ∨
      ∃ d rest, d :: rest <:+ cs ∧ isReserved d = true ∧ tail = d :: ofChars rest := by
  induction cs with
  | nil => simp [ofChars_nil]
  | cons c cs ih =>
    simp only [List.suffix_cons_iff, List.cons.injEq, or_and_right, and_assoc, exists_or,
      exists_and_left, exists_eq_left, ofChars_cons]
    cases hc : isReserved c with
    | false => simp [List.suffix_cons_iff, ih, or_assoc]
    | true =>
      simp only [if_true, List.suffix_cons_iff, ih, true_and]
      grind

theorem prefix_ofChars_iff : ofChars s <+: ofChars cs ↔ s <+: cs := by
  induction s generalizing cs with
  | nil => simp [ofChars_nil]
  | cons d s ih =>
    cases cs with
    | nil => grind [ofChars_nil, ofChars_cons]
    | cons c cs => grind [ofChars_cons, isReserved_selfMark]

/-- A word that seems to begin behind a mark consists of marks, and so begins in front of it too. -/
theorem prefix_of_behind_mark (hc : isReserved c = true) (h : ofChars s <+: c :: ofChars cs) :
    s <+: c :: cs := by
  induction s generalizing c cs with
  | nil => exact List.nil_prefix
  | cons d s ih =>
    rw [ofChars_cons] at h
    cases hd : isReserved d with
    | false => grind
    | true =>
      rw [hd, if_pos rfl, List.cons_prefix_cons] at h
      obtain ⟨rfl, h⟩ := h
      cases cs with
      | nil => cases List.prefix_nil.mp h
      | cons e cs => cases he : isReserved e <;> grind [ofChars_cons]

theorem infix_ofChars_iff : ofChars s <:+: ofChars cs ↔ s <:+: cs := by
  constructor
  · intro h
    obtain ⟨tail, hstarts, htail⟩ := List.infix_iff_prefix_suffix.mp h
    rcases suffix_ofChars_iff.mp htail with ⟨rest, hrest, rfl⟩ | ⟨d, rest, hrest, hd, rfl⟩
    · exact (prefix_ofChars_iff.mp hstarts).isInfix.trans hrest.isInfix
    · exact (prefix_of_behind_mark hd hstarts).isInfix.trans hrest.isInfix
  · rintro ⟨before, after, rfl⟩
    rw [ofChars_append, ofChars_append]
    exact ⟨_, _, rfl⟩

theorem ofChars_inj (h : ofChars s = ofChars cs) : s = cs := by
  have hfront : s <+: cs := prefix_ofChars_iff.mp (h ▸ List.prefix_refl _)
  have hback : cs <+: s := prefix_ofChars_iff.mp (h ▸ List.prefix_refl _)
  exact hfront.eq_of_length_le hback.length_le

theorem suffix_ofChars_iff_of_plain (h : ∀ c ∈ s, isReserved c = false) :
    s <:+ ofChars cs ↔ s <:+ cs := by
  rw [suffix_ofChars_iff]
  constructor
  · rintro (⟨rest, hrest, heq⟩ | ⟨d, rest, -, hd, rfl⟩)
    · rw [← ofChars_of_plain h] at heq
      rwa [ofChars_inj heq]
    · exact absurd rfl (ne_of_reserved hd (h d List.mem_cons_self))
  · exact fun hs => .inl ⟨s, hs, (ofChars_of_plain h).symm⟩

theorem mem_ofChars_iff (hc : isReserved c = false) : c ∈ ofChars cs ↔ c ∈ cs := by
  induction cs with
  | nil => rfl
  | cons d cs ih => grind [ofChars_cons, isReserved_selfMark]

theorem occurs_iff (word cs : List Char) : occurs word cs = true ↔ word <:+: cs := by
  induction cs with
  | nil => rw [occurs, List.isEmpty_iff, List.infix_nil]
  | cons c cs ih => rw [occurs, Bool.or_eq_true, startsWith_iff, ih, List.infix_cons_iff]

theorem dropWhile_ofChars {test : Char → Bool} (h : ∀ c, isReserved c = true → test c = false)
    (cs : List Char) : (ofChars cs).dropWhile test = ofChars (cs.dropWhile test) := by
  induction cs with
  | nil => rfl
  | cons c cs ih =>
    cases hc : isReserved c with
    | false => by_cases ht : test c = true <;> simp [ofChars_cons, hc, ht, ih]
    | true => simp [ofChars_cons, hc, h c hc, h selfMark isReserved_selfMark]

theorem isBlank_of_reserved (hc : isReserved c = true) : isBlank c = false := by
  simp only [isReserved, Bool.and_eq_true, decide_eq_true_eq] at hc
  have hranges : within blankRanges c = false := by
    simp only [within, blankRanges, List.any_cons, List.any_nil, Bool.or_false,
      Bool.or_eq_false_iff, Bool.and_eq_false_iff, decide_eq_false_iff_not]
    omega
  rw [isBlank, hranges, Bool.and_false, Bool.or_false]
  simp only [Bool.or_eq_false_iff, Bool.and_eq_false_iff, decide_eq_false_iff_not]
  omega

/-! Lines. -/

theorem unifyNewlines_cons (hc : c ≠ '\r') (cs : List Char) :
    unifyNewlines (c :: cs) = c :: unifyNewlines cs := by
  rw [unifyNewlines]
  · intro cs' h
    exact absurd h hc
  · exact hc

theorem unifyNewlines_return (h : cs.head? ≠ some '\n') :
    unifyNewlines ('\r' :: cs) = '\n' :: unifyNewlines cs := by
  rw [unifyNewlines]
  rintro rest rfl
  exact h rfl

theorem unifyNewlines_ofChars (cs : List Char) :
    unifyNewlines (ofChars cs) = ofChars (unifyNewlines cs) := by
  have hreturn : isReserved '\r' = false := by decide
  have hfeed : isReserved '\n' = false := by decide
  have hmark : selfMark ≠ '\r' ∧ selfMark ≠ '\n' := by decide
  induction cs using unifyNewlines.induct with
  | case1 => rfl
  | case2 cs ih =>
    rw [unifyNewlines, ofChars_cons '\n', ← ih]
    simp only [ofChars_cons, hreturn, hfeed, Bool.false_eq_true, if_false]
    rw [unifyNewlines]
  | case3 cs hnext ih =>
    have hplain : cs.head? ≠ some '\n' := by
      rintro h
      obtain ⟨rest, rfl⟩ := List.head?_eq_some_iff.mp h
      exact hnext rest rfl
    have hmarked : (ofChars cs).head? ≠ some '\n' := by
      cases cs with
      | nil => exact hplain
      | cons d ds => cases hr : isReserved d <;> simp_all [ofChars_cons]
    simp [ofChars_cons, hreturn, hfeed, unifyNewlines_return hmarked, unifyNewlines_return hplain, ih]
  | case4 c cs _ hne ih =>
    have hc : c ≠ '\r' := hne
    cases hr : isReserved c <;> simp [ofChars_cons, hr, unifyNewlines_cons, hmark, hc, ih]

theorem linesKept_ofChars (cs : List Char) :
    linesKept (ofChars cs) = (linesKept cs).map ofChars := by
  have hfeed : isReserved '\n' = false := by decide
  have hmark : selfMark ≠ '\n' := by decide
  induction cs with
  | nil => rfl
  | cons c cs ih =>
    by_cases hc : c = '\n'
    · simp [hc, ofChars_cons, hfeed, linesKept, ih, ofChars_nil]
    · cases hcs : linesKept cs <;> cases hr : isReserved c <;>
        simp [ofChars_cons, ofChars_nil, linesKept, hcs, hr, hc, hmark, ih]

theorem linesRead_ofChars (cs : List Char) : linesRead (ofChars cs) = (linesRead cs).map ofChars := by
  rw [linesRead, unifyNewlines_ofChars, linesKept_ofChars, ← linesRead]

end Text

namespace Pattern

open Text (ofChars isReserved selfMark)

theorem afterEach_append (tests more : List (Char → Bool)) (cs : List Char) :
    afterEach (tests ++ more) cs = (afterEach tests cs).bind (afterEach more) := by
  induction tests generalizing cs with
  | nil => rfl
  | cons test tests ih =>
    cases cs with
    | nil => rfl
    | cons c cs =>
      rw [List.cons_append, afterEach, afterEach]
      split
      · exact ih _
      · rfl

/-- A test that does not tell private characters apart takes a marked character for one. -/
theorem afterEach_cons_ofChars {test : Char → Bool} {tests : List (Char → Bool)} {c : Char}
    (h : isReserved c = true → test selfMark = test c) (cs : List Char) :
    afterEach (test :: tests) (ofChars (c :: cs)) =
      if test c then afterEach tests (ofChars cs) else none := by
  cases hc : isReserved c with
  | false =>
    have hself : c ≠ selfMark := (Text.ne_of_reserved Text.isReserved_selfMark hc).symm
    simp [Text.ofChars_cons, hc, afterEach, hself]
  | true => simp [Text.ofChars_cons, hc, afterEach, h hc]

theorem afterEach_exactly_iff {word : String} (hplain : ∀ c ∈ word.toList, isReserved c = false)
    {cs tail : List Char} :
    afterEach (exactly word) (ofChars cs) = some tail ↔
      ∃ rest, cs = word.toList ++ rest ∧ tail = ofChars rest := by
  rw [exactly]
  generalize word.toList = ws at hplain ⊢
  induction ws generalizing cs with
  | nil => simp [afterEach, eq_comm]
  | cons w ws ih =>
    obtain ⟨hw, hws⟩ := List.forall_mem_cons.mp hplain
    cases cs with
    | nil => simp [afterEach, ofChars]
    | cons c cs =>
      have hblind : isReserved c = true → (selfMark == w) = (c == w) := fun hc => by
        rw [beq_eq_false_iff_ne.mpr (Text.ne_of_reserved Text.isReserved_selfMark hw),
          beq_eq_false_iff_ne.mpr (Text.ne_of_reserved hc hw)]
      rw [List.map_cons, afterEach_cons_ofChars hblind]
      by_cases hc : c = w
      · simp [hc, ih hws]
      · simp [hc]

theorem afterEach_exactly_of_reserved {word : String} (hne : word.toList ≠ [])
    (hplain : ∀ c ∈ word.toList, isReserved c = false) (more : List (Char → Bool)) {c : Char}
    (hc : isReserved c = true) (tail : List Char) :
    afterEach (exactly word ++ more) (c :: tail) = none := by
  rw [exactly]
  generalize word.toList = ws at hne hplain ⊢
  cases ws with
  | nil => exact absurd rfl hne
  | cons w ws =>
    have hw : (c == w) = false :=
      beq_eq_false_iff_ne.mpr (Text.ne_of_reserved hc (hplain w List.mem_cons_self))
    rw [List.map_cons, List.cons_append, afterEach, hw, if_neg Bool.false_ne_true]

theorem afterEach_around_iff {before after : String} {test : Char → Bool}
    (hbefore : ∀ c ∈ before.toList, isReserved c = false)
    (hafter : ∀ c ∈ after.toList, isReserved c = false)
    (hblind : ∀ c, isReserved c = true → test selfMark = test c) {cs : List Char} :
    (afterEach (exactly before ++ [test] ++ exactly after) (ofChars cs)).isSome = true ↔
      ∃ c, test c = true ∧ before.toList ++ c :: after.toList <+: cs := by
  rw [Option.isSome_iff_exists]
  simp only [afterEach_append, Option.bind_eq_some_iff]
  constructor
  · rintro ⟨tail, tail', ⟨tail'', hfirst, hmiddle⟩, hlast⟩
    obtain ⟨rest, rfl, rfl⟩ := (afterEach_exactly_iff hbefore).mp hfirst
    cases rest with
    | nil => cases hmiddle
    | cons c rest =>
      rw [afterEach_cons_ofChars (hblind c)] at hmiddle
      split at hmiddle
      · rename_i hc
        obtain rfl := Option.some.inj hmiddle
        obtain ⟨rest, rfl, rfl⟩ := (afterEach_exactly_iff hafter).mp hlast
        exact ⟨c, hc, rest, by simp⟩
      · cases hmiddle
  · rintro ⟨c, hc, rest, rfl⟩
    refine ⟨ofChars rest, ofChars (after.toList ++ rest), ⟨ofChars (c :: (after.toList ++ rest)),
      (afterEach_exactly_iff hbefore).mpr ⟨_, by simp, rfl⟩, ?_⟩,
      (afterEach_exactly_iff hafter).mpr ⟨rest, rfl, rfl⟩⟩
    rw [afterEach_cons_ofChars (hblind c), if_pos hc]
    rfl

theorem anySuffix_iff {test : List Char → Bool} {cs : List Char} :
    anySuffix test cs = true ↔ ∃ tail, tail <:+ cs ∧ test tail = true := by
  induction cs with
  | nil => simp [anySuffix, List.suffix_nil]
  | cons c cs ih =>
    rw [anySuffix, Bool.or_eq_true, ih]
    simp only [List.suffix_cons_iff, or_and_right, exists_or, exists_eq_left]

/-- A test that fails on what begins with a private character holds of an end of the text that is
meant. -/
theorem anySuffix_ofChars_iff {test : List Char → Bool} {cs : List Char}
    (h : ∀ c tail, isReserved c = true → test (c :: tail) = false) :
    anySuffix test (ofChars cs) = true ↔ ∃ rest, rest <:+ cs ∧ test (ofChars rest) = true := by
  rw [anySuffix_iff]
  constructor
  · rintro ⟨tail, htail, htest⟩
    rcases Text.suffix_ofChars_iff.mp htail with ⟨rest, hrest, rfl⟩ | ⟨d, rest, -, hd, rfl⟩
    · exact ⟨rest, hrest, htest⟩
    · rw [h d _ hd] at htest
      cases htest
  · rintro ⟨rest, hrest, htest⟩
    exact ⟨ofChars rest, Text.suffix_ofChars_iff.mpr (.inl ⟨rest, hrest, rfl⟩), htest⟩

end Pattern
end DroidAudit
