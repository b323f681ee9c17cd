import DroidAudit.Proofs.JsonText
import Mathlib.Data.List.Nodup

/-! Structured data over several lines. A reader gets through the blanks of the layout and finds
each value where it was written, so a layout is read as the value that was laid out. -/
namespace DroidAudit.Json

mutual

/-- A value that is read as it was written: it holds no reals, settled texts only, and no key
twice. -/
def IsSound : Json → Prop
  | .real _ => False
  | .text s => IsSettled s
  | .array items => ItemsSound items
  | .object entries => (entries.map (·.1)).Nodup ∧ EntriesSound entries
  | _ => True

def ItemsSound : List Json → Prop
  | [] => True
  | v :: vs => IsSound v ∧ ItemsSound vs

def EntriesSound : List (String × Json) → Prop
  | [] => True
  | (k, v) :: es => IsSettled k ∧ IsSound v ∧ EntriesSound es

end

/-! Blanks. -/

def AllSpace (cs : List Char) : Prop := ∀ c ∈ cs, isSpace c = true

/-- The line on which an array or an object is closed, or on which its next part begins. -/
def newLine (step depth : Nat) : List Char := '\n' :: (spaces (step * depth)).toList

theorem length_newLine (step depth : Nat) : (newLine step depth).length = step * depth + 1 := by
  simp [newLine, spaces]

theorem allSpace_newLine (step depth : Nat) : AllSpace (newLine step depth) := by
  intro c hc
  rw [newLine, spaces, String.toList_ofList, List.mem_cons] at hc
  rcases hc with rfl | hc
  · rfl
  · rw [List.eq_of_mem_replicate hc]
    rfl

theorem readValue_succ (fuel : Nat) (cs : List Char) :
    readValue (fuel + 1) cs =
      readOpened (readItems fuel) (readEntries fuel []) (cs.dropWhile isSpace) := rfl

variable {blanks rest : List Char} {c : Char} {v : Json}

theorem readValue_skip (h : AllSpace blanks) (fuel : Nat) (cs : List Char) :
    readValue fuel (blanks ++ cs) = readValue fuel cs := by
  cases fuel with
  | zero => rfl
  | succ fuel => rw [readValue_succ, readValue_succ, List.dropWhile_append_of_pos h]

theorem readValue_blank (fuel : Nat) (cs : List Char) :
    readValue fuel (' ' :: cs) = readValue fuel cs := by
  have hblank : AllSpace [' '] := by simp [AllSpace, isSpace]
  exact readValue_skip hblank fuel cs

/-! Plain values. -/

theorem isSpace_of_isDigit (hc : c.isDigit = true) : isSpace c = false := by
  simp only [isSpace, Bool.or_eq_false_iff, beq_eq_false_iff_ne]
  refine ⟨⟨⟨?_, ?_⟩, ?_⟩, ?_⟩ <;> (rintro rfl; exact absurd hc (by decide))

theorem readValue_digit (hc : c.isDigit = true) (fuel : Nat) (cs : List Char) :
    readValue (fuel + 1) (c :: cs) = readNumber false (c :: cs) := by
  have hdrop : (c :: cs).dropWhile isSpace = c :: cs := by simp [isSpace_of_isDigit hc]
  rw [readValue_succ, hdrop]
  unfold readOpened
  split <;> first | rfl | (rename_i heq; cases heq; exact absurd hc (by decide))

theorem readValue_minus (hc : c.isDigit = true) (fuel : Nat) (cs : List Char) :
    readValue (fuel + 1) ('-' :: c :: cs) = readNumber true (c :: cs) := by
  have hdrop : ('-' :: c :: cs).dropWhile isSpace = '-' :: c :: cs := rfl
  rw [readValue_succ, hdrop]
  unfold readOpened
  split <;> rename_i heq
  all_goals first | exact (heq _ rfl).elim | cases heq
  · exact absurd hc (by decide)
  · rfl

theorem toDigits_head (n : Nat) : ∃ c cs, Nat.toDigits 10 n = c :: cs ∧ c.isDigit = true := by
  obtain ⟨c, cs, hcs⟩ := List.exists_cons_of_ne_nil (Nat.toDigits_ne_nil (n := n) (b := 10))
  have hc : c ∈ Nat.toDigits 10 n := hcs ▸ List.mem_cons_self
  exact ⟨c, cs, hcs, Nat.isDigit_of_mem_toDigits (by decide) (by decide) hc⟩

theorem toList_toString_ofNat (n : Nat) : (toString (Int.ofNat n)).toList = Nat.toDigits 10 n := by
  have hnat : toString (Int.ofNat n) = toString n := rfl
  rw [hnat, Nat.toString_eq_ofList_toDigits, String.toList_ofList]

theorem toList_toString_negSucc (n : Nat) :
    (toString (Int.negSucc n)).toList = '-' :: Nat.toDigits 10 (n + 1) := by
  have hnat : toString (Int.negSucc n) = "-" ++ toString (n + 1) := rfl
  rw [hnat, Nat.toString_eq_ofList_toDigits]
  simp

theorem readValue_int (n : Int) (fuel : Nat) (h : Ends rest) :
    readValue (fuel + 1) ((toString n).toList ++ rest) = some (.int n, rest) := by
  cases n with
  | ofNat n =>
    obtain ⟨c, cs, hcs, hc⟩ := toDigits_head n
    have hnumber := readNumber_digits false n h
    rw [hcs] at hnumber
    rw [toList_toString_ofNat, hcs, List.cons_append, readValue_digit hc]
    exact hnumber
  | negSucc n =>
    obtain ⟨c, cs, hcs, hc⟩ := toDigits_head (n + 1)
    have hnumber := readNumber_digits true (n + 1) h
    rw [hcs] at hnumber
    rw [toList_toString_negSucc, hcs, List.cons_append, List.cons_append, readValue_minus hc]
    exact hnumber

theorem readValue_quote (fuel : Nat) (cs : List Char) :
    readValue (fuel + 1) ('"' :: cs) =
      (readText (cs.length + 1) [] cs).map fun (s, rest) => (.text s, rest) := rfl

theorem readValue_text {s : String} (h : IsSettled s) (fuel : Nat) (rest : List Char) :
    readValue (fuel + 1) (textChars s ++ rest) = some (.text s, rest) := by
  have htext : textChars s ++ rest =
      '"' :: ((Text.points s.toList).flatMap escapedPoint ++ '"' :: rest) := by
    simp [textChars]
  rw [htext, readValue_quote, h.readText rfl]
  rfl

/-! Lists of items and of entries. -/

theorem dropWhile_blanks (h : AllSpace blanks) (hc : isSpace c = false) (cs : List Char) :
    (blanks ++ c :: cs).dropWhile isSpace = c :: cs := by
  rw [List.dropWhile_append_of_pos h, List.dropWhile_cons_of_neg (by simp [hc])]

theorem readValue_array (h : AllSpace blanks)
    (hspace : isSpace c = false) (hc : c ≠ ']') (cs : List Char) (fuel : Nat) :
    readValue (fuel + 1) ('[' :: (blanks ++ c :: cs)) = readItems fuel (blanks ++ c :: cs) := by
  have hopen : ('[' :: (blanks ++ c :: cs)).dropWhile isSpace = '[' :: (blanks ++ c :: cs) := rfl
  rw [readValue_succ, hopen, readOpened, dropWhile_blanks h hspace]
  split
  · rename_i heq
    cases heq
    exact absurd rfl hc
  · rfl

theorem readValue_object (h : AllSpace blanks) (cs : List Char) (fuel : Nat) :
    readValue (fuel + 1) ('\x7b' :: (blanks ++ '"' :: cs)) =
      readEntries fuel [] (blanks ++ '"' :: cs) := by
  have hopen : ('\x7b' :: (blanks ++ '"' :: cs)).dropWhile isSpace =
      '\x7b' :: (blanks ++ '"' :: cs) := rfl
  have hquote : (blanks ++ '"' :: cs).dropWhile isSpace = '"' :: cs := dropWhile_blanks h rfl cs
  rw [readValue_succ, hopen, readOpened, hquote]
  rfl

theorem readItems_last {fuel : Nat} {cs close : List Char}
    (hvalue : readValue fuel cs = some (v, close ++ ']' :: rest)) (hclose : AllSpace close) :
    readItems (fuel + 1) cs = some (.array [v], rest) := by
  rw [readItems, hvalue]
  simp [dropWhile_blanks hclose (show isSpace ']' = false from rfl)]

theorem readItems_more {fuel : Nat} {cs more : List Char} {vs : List Json}
    (hvalue : readValue fuel cs = some (v, ',' :: more))
    (hmore : readItems fuel more = some (.array vs, rest)) :
    readItems (fuel + 1) cs = some (.array (v :: vs), rest) := by
  rw [readItems, hvalue]
  simp [isSpace, hmore]

theorem putEntry_of_new {key : String} {done : List (String × Json)}
    (h : key ∉ done.map (·.1)) : putEntry key v done = done ++ [(key, v)] := by
  induction done with
  | nil => rfl
  | cons e done ih =>
    rw [List.map_cons, List.mem_cons, not_or] at h
    simp [putEntry, Ne.symm h.1, ih h.2]

theorem not_mem_of_nodup_entries {done es : List (String × Json)} {k : String}
    (h : ((done ++ (k, v) :: es).map (·.1)).Nodup) : k ∉ done.map (·.1) := by
  rw [List.map_append, List.map_cons] at h
  exact fun hk => List.disjoint_of_nodup_append h hk List.mem_cons_self

section Entries
variable {key : String} {blanks : List Char} {fuel : Nat} {v : Json} {cs : List Char}

theorem blanks_textChars (blanks : List Char) (key : String) (cs : List Char) :
    blanks ++ textChars key ++ cs =
      blanks ++ '"' :: ((Text.points key.toList).flatMap escapedPoint ++ '"' :: cs) := by
  simp [textChars]

theorem readEntries_last (hkey : IsSettled key) (hblanks : AllSpace blanks)
    (done : List (String × Json)) {close rest : List Char}
    (hvalue : readValue fuel (' ' :: cs) = some (v, close ++ '\x7d' :: rest))
    (hclose : AllSpace close) :
    readEntries (fuel + 1) done (blanks ++ textChars key ++ ':' :: ' ' :: cs) =
      some (.object (putEntry key v done), rest) := by
  have hcolon : (':' :: ' ' :: cs).dropWhile isSpace = ':' :: ' ' :: cs := rfl
  have hbrace : (close ++ '\x7d' :: rest).dropWhile isSpace = '\x7d' :: rest :=
    dropWhile_blanks hclose rfl rest
  rw [readEntries, blanks_textChars, dropWhile_blanks hblanks rfl]
  simp only [hkey.readText rfl, hcolon, hvalue, hbrace, bind, Option.bind]

theorem readEntries_more (hkey : IsSettled key) (hblanks : AllSpace blanks)
    (done : List (String × Json)) {more : List Char}
    (hvalue : readValue fuel (' ' :: cs) = some (v, ',' :: more)) :
    readEntries (fuel + 1) done (blanks ++ textChars key ++ ':' :: ' ' :: cs) =
      readEntries fuel (putEntry key v done) more := by
  have hcolon : (':' :: ' ' :: cs).dropWhile isSpace = ':' :: ' ' :: cs := rfl
  have hcomma : (',' :: more).dropWhile isSpace = ',' :: more := rfl
  rw [readEntries, blanks_textChars, dropWhile_blanks hblanks rfl]
  simp only [hkey.readText rfl, hcolon, hvalue, hcomma, bind, Option.bind]

end Entries

/-! Layouts. -/

def itemsChars (step depth : Nat) : List Json → List Char
  | [] => []
  | v :: vs => (layoutAt step depth v).toList ++ (layoutItems step depth vs).toList

def entriesChars (step depth : Nat) : List (String × Json) → List Char
  | [] => []
  | (k, v) :: es => textChars k ++ ':' :: ' ' :: ((layoutAt step depth v).toList ++
      (layoutEntries step depth es).toList)

theorem toList_layoutItems_cons (step depth : Nat) (v : Json) (vs : List Json) :
    (layoutItems step depth (v :: vs)).toList =
      ',' :: (newLine step depth ++ itemsChars step depth (v :: vs)) := by
  simp [layoutItems, itemsChars, newLine]

theorem toList_layoutEntries_cons (step depth : Nat) (e : String × Json)
    (es : List (String × Json)) :
    (layoutEntries step depth (e :: es)).toList =
      ',' :: (newLine step depth ++ entriesChars step depth (e :: es)) := by
  simp [layoutEntries, entriesChars, newLine, quoteText]

theorem toList_layoutAt_array (step depth : Nat) (v : Json) (vs : List Json) :
    (layoutAt step depth (.array (v :: vs))).toList =
      '[' :: (newLine step (depth + 1) ++ itemsChars step (depth + 1) (v :: vs) ++
        newLine step depth ++ [']']) := by
  simp [layoutAt, itemsChars, newLine]

theorem toList_layoutAt_object (step depth : Nat) (e : String × Json)
    (es : List (String × Json)) :
    (layoutAt step depth (.object (e :: es))).toList =
      '\x7b' :: (newLine step (depth + 1) ++ entriesChars step (depth + 1) (e :: es) ++
        newLine step depth ++ ['\x7d']) := by
  simp [layoutAt, entriesChars, newLine, quoteText]

/-- A layout opens with a character that is no blank and closes nothing. -/
theorem layoutAt_head {j : Json} (h : j.IsSound) (step depth : Nat) :
    ∃ c cs, (layoutAt step depth j).toList = c :: cs ∧ isSpace c = false ∧ c ≠ ']' := by
  cases j with
  | null => exact ⟨'n', _, by rw [layoutAt]; rfl, rfl, by decide⟩
  | bool b => cases b <;> exact ⟨_, _, by rw [layoutAt]; rfl, rfl, by decide⟩
  | int n =>
    rw [layoutAt]
    cases n with
    | ofNat n =>
      obtain ⟨c, cs, hcs, hc⟩ := toDigits_head n
      exact ⟨c, cs, by rw [toList_toString_ofNat, hcs], isSpace_of_isDigit hc, by
        rintro rfl
        exact absurd hc (by decide)⟩
    | negSucc n => exact ⟨'-', _, toList_toString_negSucc n, rfl, by decide⟩
  | real x => rw [IsSound] at h; exact h.elim
  | text s => exact ⟨'"', _, by rw [layoutAt, quoteText, String.toList_ofList]; rfl, rfl, by decide⟩
  | array items =>
    cases items with
    | nil => exact ⟨'[', _, by rw [layoutAt]; rfl, rfl, by decide⟩
    | cons v vs => exact ⟨'[', _, toList_layoutAt_array .., rfl, by decide⟩
  | object entries =>
    cases entries with
    | nil => exact ⟨'\x7b', _, by rw [layoutAt]; rfl, rfl, by decide⟩
    | cons e es => exact ⟨'\x7b', _, toList_layoutAt_object .., rfl, by decide⟩

theorem itemsChars_head {vs : List Json} (h : ItemsSound (v :: vs)) (step depth : Nat) :
    ∃ c cs, itemsChars step depth (v :: vs) = c :: cs ∧ isSpace c = false ∧ c ≠ ']' := by
  rw [ItemsSound] at h
  obtain ⟨c, cs, hcs, hc⟩ := layoutAt_head h.1 step depth
  exact ⟨c, _, by rw [itemsChars, hcs, List.cons_append], hc⟩

theorem ends_newLine (step depth : Nat) (cs : List Char) : Ends (newLine step depth ++ cs) := by
  simp [Ends, newLine]

theorem ends_comma (cs : List Char) : Ends (',' :: cs) := by
  simp [Ends]

mutual

theorem readValue_layoutAt (step depth : Nat) : (j : Json) → j.IsSound → ∀ (fuel : Nat)
    (rest : List Char), (layoutAt step depth j).toList.length ≤ fuel → Ends rest →
      readValue (fuel + 1) ((layoutAt step depth j).toList ++ rest) = some (j, rest)
  | .null, _ => fun fuel rest _ _ => by
    rw [layoutAt]
    rfl
  | .bool b, _ => fun fuel rest _ _ => by
    cases b <;> rw [layoutAt] <;> rfl
  | .int n, _ => fun fuel rest _ hrest => by
    rw [layoutAt]
    exact readValue_int n fuel hrest
  | .real _, h => False.elim (by rwa [IsSound] at h)
  | .text s, h => fun fuel rest _ _ => by
    rw [IsSound] at h
    rw [layoutAt, quoteText, String.toList_ofList]
    exact readValue_text h fuel rest
  | .array [], _ => fun fuel rest _ _ => by
    rw [layoutAt]
    rfl
  | .array (v :: vs), h => fun fuel rest hfuel _ => by
    rw [IsSound] at h
    rw [toList_layoutAt_array] at hfuel ⊢
    simp only [List.length_cons, List.length_append, length_newLine] at hfuel
    -- The bracket and the new line leave the reader enough steps for the items.
    obtain ⟨fuel, rfl⟩ : ∃ k, fuel = k + 2 := ⟨fuel - 2, by omega⟩
    have hitems := readItems_layout step (depth + 1) (v :: vs) h (List.cons_ne_nil v vs) fuel depth
      rest (by omega)
    obtain ⟨c, cs, hcs, hspace, hc⟩ := itemsChars_head h step (depth + 1)
    rw [hcs] at hitems ⊢
    simp only [List.cons_append, List.append_assoc, List.nil_append] at hitems ⊢
    rw [readValue_array (allSpace_newLine _ _) hspace hc]
    exact hitems
  | .object [], _ => fun fuel rest _ _ => by
    rw [layoutAt]
    rfl
  | .object ((k, v) :: es), h => fun fuel rest hfuel _ => by
    rw [IsSound] at h
    rw [toList_layoutAt_object] at hfuel ⊢
    simp only [List.length_cons, List.length_append, length_newLine] at hfuel
    obtain ⟨fuel, rfl⟩ : ∃ k, fuel = k + 2 := ⟨fuel - 2, by omega⟩
    have hentries := readEntries_layout step (depth + 1) ((k, v) :: es) h.2
      (List.cons_ne_nil _ es) fuel depth [] rest (by simpa using h.1)
      (by omega)
    simp only [entriesChars, textChars, List.cons_append, List.append_assoc, List.nil_append]
      at hentries ⊢
    rw [readValue_object (allSpace_newLine _ _)]
    exact hentries

theorem readItems_layout (step depth : Nat) : (items : List Json) → ItemsSound items →
    items ≠ [] → ∀ (fuel outer : Nat) (rest : List Char),
      (itemsChars step depth items).length ≤ fuel →
      readItems (fuel + 2) (newLine step depth ++ itemsChars step depth items ++
        newLine step outer ++ ']' :: rest) = some (.array items, rest)
  | [], _, h => absurd rfl h
  | [v], h, _ => fun fuel outer rest hfuel => by
    rw [ItemsSound] at h
    have hchars : itemsChars step depth [v] = (layoutAt step depth v).toList := by
      simp [itemsChars, layoutItems]
    rw [hchars] at hfuel ⊢
    apply readItems_last _ (allSpace_newLine step outer)
    rw [List.append_assoc, List.append_assoc, readValue_skip (allSpace_newLine _ _)]
    exact readValue_layoutAt step depth v h.1 fuel _ hfuel (ends_newLine _ _ _)
  | v :: w :: vs, h, _ => fun fuel outer rest hfuel => by
    rw [ItemsSound] at h
    have hchars : itemsChars step depth (v :: w :: vs) = (layoutAt step depth v).toList ++
        ',' :: (newLine step depth ++ itemsChars step depth (w :: vs)) := by
      rw [itemsChars, toList_layoutItems_cons]
    rw [hchars] at hfuel ⊢
    simp only [List.length_cons, List.length_append] at hfuel
    obtain ⟨fuel, rfl⟩ : ∃ k, fuel = k + 1 := ⟨fuel - 1, by omega⟩
    refine readItems_more ?_
      (readItems_layout step depth (w :: vs) h.2 (List.cons_ne_nil w vs) fuel outer rest (by omega))
    simp only [List.append_assoc, List.cons_append]
    rw [readValue_skip (allSpace_newLine _ _)]
    exact readValue_layoutAt step depth v h.1 (fuel + 1) _ (by omega) (ends_comma _)

theorem readEntries_layout (step depth : Nat) : (entries : List (String × Json)) →
    EntriesSound entries → entries ≠ [] → ∀ (fuel outer : Nat) (done : List (String × Json))
      (rest : List Char), ((done ++ entries).map (·.1)).Nodup →
      (entriesChars step depth entries).length ≤ fuel →
      readEntries (fuel + 2) done (newLine step depth ++ entriesChars step depth entries ++
        newLine step outer ++ '\x7d' :: rest) = some (.object (done ++ entries), rest)
  | [], _, h => absurd rfl h
  | [(k, v)], h, _ => fun fuel outer done rest hkeys hfuel => by
    rw [EntriesSound] at h
    have hnew : k ∉ done.map (·.1) := not_mem_of_nodup_entries hkeys
    have hchars : entriesChars step depth [(k, v)] =
        textChars k ++ ':' :: ' ' :: (layoutAt step depth v).toList := by
      simp [entriesChars, layoutEntries]
    rw [hchars] at hfuel ⊢
    simp only [List.length_cons, List.length_append] at hfuel
    have hvalue := readValue_layoutAt step depth v h.2.1 fuel
      (newLine step outer ++ '\x7d' :: rest) (by omega) (ends_newLine _ _ _)
    rw [← readValue_blank] at hvalue
    have hentry := readEntries_last h.1 (allSpace_newLine step depth) done hvalue
      (allSpace_newLine step outer)
    rw [putEntry_of_new hnew] at hentry
    simpa using hentry
  | (k, v) :: e :: es, h, _ => fun fuel outer done rest hkeys hfuel => by
    rw [EntriesSound] at h
    have hnew : k ∉ done.map (·.1) := not_mem_of_nodup_entries hkeys
    have hchars : entriesChars step depth ((k, v) :: e :: es) =
        textChars k ++ ':' :: ' ' :: ((layoutAt step depth v).toList ++
          ',' :: (newLine step depth ++ entriesChars step depth (e :: es))) := by
      rw [entriesChars, toList_layoutEntries_cons]
    rw [hchars] at hfuel ⊢
    simp only [List.length_cons, List.length_append] at hfuel
    obtain ⟨fuel, rfl⟩ : ∃ k, fuel = k + 1 := ⟨fuel - 1, by omega⟩
    have hvalue := readValue_layoutAt step depth v h.2.1 (fuel + 1)
      (',' :: (newLine step depth ++ entriesChars step depth (e :: es) ++
        newLine step outer ++ '\x7d' :: rest)) (by omega) (ends_comma _)
    rw [← readValue_blank] at hvalue
    have hentry := readEntries_more h.1 (allSpace_newLine step depth) done hvalue
    have hmore := readEntries_layout step depth (e :: es) h.2.2 (List.cons_ne_nil e es) fuel outer
      (done ++ [(k, v)]) rest (by simpa using hkeys) (by omega)
    rw [putEntry_of_new hnew] at hentry
    simpa using hentry.trans hmore

end

end DroidAudit.Json
