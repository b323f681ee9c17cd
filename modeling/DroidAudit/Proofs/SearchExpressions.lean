/-! Search expressions. A matcher tries alternatives in their order and repeats as often as it can
before it gives way, so a match is the first of all ways to go through an expression. What an
expression can match is said by its ends; which of them counts, by their order. -/
namespace DroidAudit.Pattern

inductive Expr
  | nothing
  /-- One character that passes a test. -/
  | one (test : Char → Bool)
  /-- The front of the text. -/
  | atFront
  /-- The end of the text, or the place before a line feed that ends it. -/
  | atEnd
  | both (first next : Expr)
  | either (first second : Expr)
  | many (part : Expr)

namespace Expr

def word (cs : List Char) : Expr := cs.foldr (fun c next => both (one (· == c)) next) nothing

/-- The ends of repetitions of a step, longer ones first. A step that does not go forward is not
repeated, so `fuel` is never short if it is the length of the text. -/
def repeated (step : List Char → List (List Char)) : Nat → List Char → List (List Char)
  | 0, cs => [cs]
  | fuel + 1, cs =>
    ((step cs).filter fun rest => rest.length < cs.length).flatMap (repeated step fuel) ++ [cs]

/-- What may follow a match that begins at `cs` in the text `whole`, in the order of trying. -/
def ends (whole : List Char) : Expr → List Char → List (List Char)
  | nothing, cs => [cs]
  | one _, [] => []
  | one test, c :: cs => if test c then [cs] else []
  | atFront, cs => if cs == whole then [cs] else []
  | atEnd, cs => if cs == [] || cs == ['\n'] then [cs] else []
  | both first next, cs => (first.ends whole cs).flatMap (next.ends whole)
  | either first second, cs => first.ends whole cs ++ second.ends whole cs
  | many part, cs => repeated (part.ends whole) cs.length cs

def matchesFront (e : Expr) (cs : List Char) : Bool := !(e.ends cs cs).isEmpty

/-- The first match in what is left of a text. -/
def searchFrom (e : Expr) (whole : List Char) : List Char → Option (List Char)
  | [] => (e.ends whole []).head?.map fun _ => []
  | c :: cs =>
    match (e.ends whole (c :: cs)).head? with
    | some rest => some ((c :: cs).take ((c :: cs).length - rest.length))
    | none => e.searchFrom whole cs

def search (e : Expr) (cs : List Char) : Option (List Char) := e.searchFrom cs cs

variable {whole cs rest : List Char} {first second : Expr} {test : Char → Bool}

theorem ends_one_cons (c : Char) :
    (one test).ends whole (c :: cs) = if test c then [cs] else [] := rfl

theorem ends_both : (both first second).ends whole cs =
    (first.ends whole cs).flatMap (second.ends whole) := rfl

theorem ends_either : (either first second).ends whole cs =
    first.ends whole cs ++ second.ends whole cs := rfl

theorem repeated_succ (step : List Char → List (List Char)) (fuel : Nat) (cs : List Char) :
    repeated step (fuel + 1) cs = ((step cs).filter fun rest => rest.length < cs.length).flatMap
      (repeated step fuel) ++ [cs] := rfl

theorem searchFrom_cons (e : Expr) (c : Char) :
    e.searchFrom whole (c :: cs) = match (e.ends whole (c :: cs)).head? with
      | some rest => some ((c :: cs).take ((c :: cs).length - rest.length))
      | none => e.searchFrom whole cs := rfl

/-! What can be matched. -/

theorem mem_ends_one : rest ∈ (one test).ends whole cs ↔ ∃ c, cs = c :: rest ∧ test c = true := by
  cases cs with
  | nil => exact iff_of_false List.not_mem_nil (by simp)
  | cons d ds => by_cases hd : test d = true <;> grind [ends_one_cons]

theorem mem_ends_both :
    rest ∈ (both first second).ends whole cs ↔
      ∃ middle, middle ∈ first.ends whole cs ∧ rest ∈ second.ends whole middle :=
  List.mem_flatMap

theorem mem_ends_either :
    rest ∈ (either first second).ends whole cs ↔
      rest ∈ first.ends whole cs ∨ rest ∈ second.ends whole cs :=
  List.mem_append

theorem mem_ends_atFront : rest ∈ atFront.ends whole cs ↔ rest = cs ∧ cs = whole := by
  change rest ∈ (if cs == whole then [cs] else []) ↔ _
  grind

theorem mem_ends_atEnd : rest ∈ atEnd.ends whole cs ↔ rest = cs ∧ (cs = [] ∨ cs = ['\n']) := by
  change rest ∈ (if cs == [] || cs == ['\n'] then [cs] else []) ↔ _
  grind

theorem word_cons (c : Char) (w : List Char) : word (c :: w) = both (one (· == c)) (word w) := rfl

theorem ends_word (w : List Char) : (word w).ends whole (w ++ cs) = [cs] := by
  induction w with
  | nil => rfl
  | cons c w ih => simp [word_cons, ends_both, ends_one_cons, ih]

theorem mem_ends_word {w : List Char} : rest ∈ (word w).ends whole cs ↔ cs = w ++ rest := by
  induction w generalizing cs with
  | nil => exact List.mem_singleton.trans eq_comm
  | cons c w ih => simp [word_cons, mem_ends_both, mem_ends_one, ih]

theorem mem_repeated_one {fuel : Nat} (h : cs.length ≤ fuel) :
    rest ∈ repeated ((one test).ends whole) fuel cs ↔
      ∃ run, cs = run ++ rest ∧ ∀ c ∈ run, test c = true := by
  induction fuel generalizing cs with
  | zero =>
    obtain rfl := List.eq_nil_of_length_eq_zero (Nat.le_zero.mp h)
    refine List.mem_singleton.trans ?_
    constructor
    · rintro rfl
      exact ⟨[], rfl, by simp⟩
    · rintro ⟨run, hrun, -⟩
      exact (List.append_eq_nil_iff.mp hrun.symm).2
  | succ fuel ih =>
    simp only [repeated_succ, List.mem_append, List.mem_flatMap, List.mem_filter, mem_ends_one,
      List.mem_singleton]
    constructor
    · rintro (⟨middle, ⟨⟨c, rfl, hc⟩, -⟩, hrest⟩ | rfl)
      · obtain ⟨run, rfl, hrun⟩ := (ih (Nat.le_of_succ_le_succ h)).mp hrest
        exact ⟨c :: run, rfl, List.forall_mem_cons.mpr ⟨hc, hrun⟩⟩
      · exact ⟨[], rfl, by simp⟩
    · rintro ⟨run, rfl, hrun⟩
      cases run with
      | nil => exact .inr rfl
      | cons c run =>
        obtain ⟨hc, hrun⟩ := List.forall_mem_cons.mp hrun
        refine .inl ⟨run ++ rest, ⟨⟨c, rfl, hc⟩, by simp⟩, ?_⟩
        exact (ih (Nat.le_of_succ_le_succ h)).mpr ⟨run, rfl, hrun⟩

/-- A repetition of characters can end behind every one of them. -/
theorem mem_ends_many_one :
    rest ∈ (many (one test)).ends whole cs ↔
      ∃ run, cs = run ++ rest ∧ ∀ c ∈ run, test c = true :=
  mem_repeated_one (Nat.le_refl _)

theorem matchesFront_iff {e : Expr} : e.matchesFront cs = true ↔ ∃ rest, rest ∈ e.ends cs cs := by
  rw [matchesFront, Bool.not_eq_true', ← Bool.not_eq_true, List.isEmpty_iff]
  exact List.ne_nil_iff_exists_cons.trans
    ⟨fun ⟨rest, more, h⟩ => ⟨rest, h ▸ List.mem_cons_self⟩,
      fun ⟨rest, h⟩ => List.ne_nil_iff_exists_cons.mp (List.ne_nil_of_mem h)⟩

theorem searchFrom_isSome_iff {e : Expr} :
    (e.searchFrom whole cs).isSome = true ↔
      ∃ before after, cs = before ++ after ∧ e.ends whole after ≠ [] := by
  induction cs with
  | nil =>
    change ((e.ends whole []).head?.map _).isSome = true ↔ _
    rw [Option.isSome_map, List.isSome_head?]
    constructor
    · exact fun h => ⟨[], [], rfl, h⟩
    · rintro ⟨before, after, hnil, h⟩
      rwa [(List.append_eq_nil_iff.mp hnil.symm).2] at h
  | cons c cs ih =>
    rw [searchFrom_cons]
    cases hends : e.ends whole (c :: cs) with
    | cons rest more => exact iff_of_true rfl ⟨[], c :: cs, rfl, hends ▸ List.cons_ne_nil rest more⟩
    | nil =>
      rw [List.head?_nil]
      refine ih.trans ⟨fun ⟨before, after, hcs, h⟩ => ⟨c :: before, after, by rw [hcs]; rfl, h⟩, ?_⟩
      rintro ⟨before, after, hcs, h⟩
      cases before with
      | nil =>
        rw [List.nil_append] at hcs
        exact absurd (hcs ▸ hends) h
      | cons d before => exact ⟨before, after, (List.cons.inj hcs).2, h⟩

/-- A word is found where it stands in the text. -/
theorem search_word_isSome_iff {w : List Char} : ((word w).search cs).isSome = true ↔ w <:+: cs := by
  rw [search, searchFrom_isSome_iff]
  constructor
  · rintro ⟨before, after, hcs, h⟩
    obtain ⟨rest, more, hends⟩ := List.ne_nil_iff_exists_cons.mp h
    have hafter : after = w ++ rest :=
      mem_ends_word.mp (hends ▸ List.mem_cons_self : rest ∈ (word w).ends cs after)
    exact ⟨before, rest, by rw [hcs, hafter, List.append_assoc]⟩
  · rintro ⟨before, after, rfl⟩
    refine ⟨before, w ++ after, List.append_assoc .., ?_⟩
    rw [ends_word]
    exact List.cons_ne_nil _ _

/-! What is matched first. -/

/-- The first choice of an expression is one character that passes a test; on others it fails. -/
structure Takes (e : Expr) (test : Char → Bool) : Prop where
  passes : ∀ whole c cs, test c = true → (e.ends whole (c :: cs)).head? = some cs
  fails : ∀ whole c cs, test c = false → e.ends whole (c :: cs) = []
  none : ∀ whole, e.ends whole [] = []

theorem head?_repeated {step : List Char → List (List Char)} {fuel : Nat}
    (hpasses : ∀ c cs, test c = true → (step (c :: cs)).head? = some cs)
    (hfails : ∀ c cs, test c = false → step (c :: cs) = []) (hnone : step [] = [])
    (h : cs.length ≤ fuel) : (repeated step fuel cs).head? = some (cs.dropWhile test) := by
  induction fuel generalizing cs with
  | zero =>
    obtain rfl := List.eq_nil_of_length_eq_zero (Nat.le_zero.mp h)
    rfl
  | succ fuel ih =>
    cases cs with
    | nil =>
      rw [repeated_succ, hnone]
      rfl
    | cons c cs =>
      rw [repeated_succ, List.dropWhile_cons]
      cases hc : test c with
      | false =>
        rw [hfails c cs hc]
        rfl
      | true =>
        obtain ⟨others, hstep⟩ := List.head?_eq_some_iff.mp (hpasses c cs hc)
        have hshorter : (cs :: others).filter (fun rest => rest.length < (c :: cs).length) =
            cs :: others.filter fun rest => rest.length < (c :: cs).length :=
          List.filter_cons_of_pos (by simp)
        rw [hstep, hshorter, List.flatMap_cons, List.append_assoc, List.head?_append,
          ih (Nat.le_of_succ_le_succ h), Option.some_or, if_pos rfl]

/-- A repetition takes the longest run of characters first. -/
theorem Takes.head?_ends_many {e : Expr} (h : e.Takes test) :
    ((many e).ends whole cs).head? = some (cs.dropWhile test) :=
  head?_repeated (h.passes whole) (h.fails whole) (h.none whole) (Nat.le_refl _)

theorem takes_one (test : Char → Bool) : (one test).Takes test where
  passes whole c cs hc := by rw [ends_one_cons, if_pos hc, List.head?_cons]
  fails whole c cs hc := by rw [ends_one_cons, hc, if_neg Bool.false_ne_true]
  none _ := rfl

theorem Takes.either {test' : Char → Bool} (h : first.Takes test) (h' : second.Takes test') :
    (either first second).Takes fun c => test c || test' c where
  passes whole c cs hc := by
    rw [ends_either, List.head?_append]
    cases htest : test c with
    | true => rw [h.passes whole c cs htest, Option.some_or]
    | false =>
      rw [htest, Bool.false_or] at hc
      rw [h.fails whole c cs htest, h'.passes whole c cs hc, List.head?_nil, Option.none_or]
  fails whole c cs hc := by
    obtain ⟨htest, htest'⟩ := Bool.or_eq_false_iff.mp hc
    rw [ends_either, h.fails whole c cs htest, h'.fails whole c cs htest', List.append_nil]
  none whole := by rw [ends_either, h.none, h'.none, List.append_nil]

/-- A last alternative for characters that are taken anyway is never the first choice. -/
theorem Takes.either_covered (h : first.Takes test) (hnone : ∀ whole, second.ends whole [] = [])
    (hcovered : ∀ whole c cs, test c = false → second.ends whole (c :: cs) = []) :
    (Expr.either first second).Takes test where
  passes whole c cs hc := by
    rw [ends_either, List.head?_append, h.passes whole c cs hc, Option.some_or]
  fails whole c cs hc := by
    rw [ends_either, h.fails whole c cs hc, hcovered whole c cs hc, List.append_nil]
  none whole := by rw [ends_either, h.none, hnone, List.append_nil]

end Expr
end DroidAudit.Pattern
