import DroidAudit.Java.Source

/-! On which line of a source text a word stands. Line feeds between words are counted by the reader,
those inside of a quoted word are not. Main statements: the line of a word and the line feeds inside of
the words in front of it make its line in the text with the escapes replaced, and every place in the
tree of a source is the place of one of its words. -/
namespace DroidAudit.Java

/-- Passes over a word of `n` characters; line ends in it do not count. -/
def Cursor.pass (k : Cursor) (n : Nat) : Cursor :=
  { k with
    rest := k.rest.drop n
    index := k.index + n
    column := k.column + Text.length (k.rest.take n)
    wordEnd := k.index + n }

/-- The word of `n` characters at the cursor. -/
def Cursor.word (k : Cursor) (kind : TokenKind) (n : Nat) : Token :=
  ⟨kind, String.ofList (k.rest.take n), k.position⟩

def placedFrom (data : List Char) : Nat → Cursor → List (List Char × Token)
  | 0, _ => []
  | fuel + 1, k =>
    if k.rest.isEmpty then []
    else
      match lexeme data k with
      | .error _ => []
      | .ok (.skip n) => placedFrom data fuel (k.skip n)
      | .ok (.word kind n) => (data.take k.index, k.word kind n) :: placedFrom data fuel (k.pass n)

/-- The words of a source text, each with all the text in front of it. -/
def placedWords (data : List Char) : List (List Char × Token) :=
  placedFrom data (data.length + 1) ⟨data, 0, 1, 0, 0⟩

variable {data : List Char} {fuel : Nat} {after before : List (List Char × Token)}

theorem tokensFrom_eq {k : Cursor} {done ts : List Token}
    (h : tokensFrom data fuel k done = .ok ts) :
    ts = done.reverse ++ (placedFrom data fuel k).map (·.2) := by
  induction fuel generalizing k done with
  | zero =>
    cases h
    simp [placedFrom]
  | succ fuel ih =>
    rw [tokensFrom] at h
    rw [placedFrom]
    cases hend : k.rest.isEmpty with
    | true =>
      simp only [hend, if_true] at h ⊢
      cases h
      simp
    | false =>
      simp only [hend, Bool.false_eq_true, if_false] at h ⊢
      cases hlexeme : lexeme data k with
      | error e =>
        simp only [hlexeme] at h
        cases h
      | ok found =>
        simp only [hlexeme] at h ⊢
        cases found with
        | skip n => exact ih h
        | word kind n =>
          have hrest := ih h
          rw [hrest]
          simp [Cursor.word, Cursor.pass]

/-! Lines. -/

/-- The cursor stands in a text; `lost` line feeds in front of it were not counted. -/
structure Cursor.StandsIn (k : Cursor) (data : List Char) (lost : Nat) : Prop where
  rest : k.rest = data.drop k.index
  line : k.line + lost = 1 + (data.take k.index).count '\n'

namespace Cursor.StandsIn
variable {k : Cursor} {data : List Char} {lost : Nat}

theorem take_add (h : k.StandsIn data lost) (n : Nat) :
    data.take (k.index + n) = data.take k.index ++ k.rest.take n := by
  rw [h.rest, List.take_add]

theorem skip (h : k.StandsIn data lost) (n : Nat) : (k.skip n).StandsIn data lost where
  rest := by
    change k.rest.drop n = data.drop (k.index + n)
    rw [h.rest, List.drop_drop]
  line := by
    have hline := h.line
    change k.line + (k.rest.take n).count '\n' + lost = 1 + (data.take (k.index + n)).count '\n'
    rw [h.take_add, List.count_append]
    omega

theorem pass (h : k.StandsIn data lost) (n : Nat) :
    (k.pass n).StandsIn data (lost + (k.rest.take n).count '\n') where
  rest := by
    change k.rest.drop n = data.drop (k.index + n)
    rw [h.rest, List.drop_drop]
  line := by
    have hline := h.line
    change k.line + (lost + (k.rest.take n).count '\n') = 1 + (data.take (k.index + n)).count '\n'
    rw [h.take_add, List.count_append]
    omega

end Cursor.StandsIn

def lineFeedsIn (words : List (List Char × Token)) : Nat :=
  (words.flatMap fun w => w.2.text.toList).count '\n'

theorem placedFrom_line {lost : Nat} {k : Cursor}
    (h : k.StandsIn data lost) {word : List Char × Token}
    (hplaced : placedFrom data fuel k = before ++ word :: after) :
    word.2.position.line + (lost + lineFeedsIn before) = 1 + word.1.count '\n' ∧
      word.1 ++ word.2.text.toList <+: data ∧ word.1.length < data.length := by
  induction fuel generalizing k lost before with
  | zero => simp [placedFrom] at hplaced
  | succ fuel ih =>
    rw [placedFrom] at hplaced
    split at hplaced
    · simp at hplaced
    rename_i hrest
    split at hplaced
    · simp at hplaced
    · rename_i n _
      exact ih (h.skip n) hplaced
    · rename_i kind n _
      cases before with
      | nil =>
        obtain ⟨rfl, -⟩ := List.cons.inj hplaced
        refine ⟨h.line, ?_, ?_⟩
        · change data.take k.index ++ (String.ofList (k.rest.take n)).toList <+: data
          rw [String.toList_ofList, ← h.take_add]
          exact List.take_prefix _ _
        · rw [h.rest, List.isEmpty_iff, List.drop_eq_nil_iff] at hrest
          rw [List.length_take]
          omega
      | cons first before =>
        -- the line feeds of the first word are lost for all that follow
        obtain ⟨rfl, hmore⟩ := List.cons.inj hplaced
        obtain ⟨hline, hplace⟩ := ih (h.pass n) hmore
        refine ⟨?_, hplace⟩
        have hfirst : (k.word kind n).text.toList = k.rest.take n := String.toList_ofList
        rw [lineFeedsIn, List.flatMap_cons, List.count_append, hfirst, ← lineFeedsIn]
        omega

/-- The line of a word and the line feeds inside of the words in front of it make the line of the text
on which it stands. -/
theorem placedWords_line
    {word : List Char × Token} (h : placedWords data = before ++ word :: after) :
    word.2.position.line + lineFeedsIn before = 1 + word.1.count '\n' ∧
      word.1 ++ word.2.text.toList <+: data ∧ word.1.length < data.length := by
  have hstart : (⟨data, 0, 1, 0, 0⟩ : Cursor).StandsIn data 0 := ⟨rfl, rfl⟩
  have hline := placedFrom_line hstart h
  rwa [Nat.zero_add] at hline

/-! Escapes. -/

theorem occurs_tail {word : List Char} {c : Char} {cs : List Char}
    (h : Text.occurs word (c :: cs) = false) : Text.occurs word cs = false := by
  rw [Text.occurs, Bool.or_eq_false_iff] at h
  exact h.2

/-- Characters with their lines, where nothing is escaped. -/
def withLines (line : Nat) : List Char → List (Char × Nat)
  | [] => []
  | c :: cs => (c, line) :: withLines (line + [c].count '\n') cs

theorem map_withLines (line : Nat) (cs : List Char) : (withLines line cs).map (·.1) = cs := by
  induction cs generalizing line with
  | nil => rfl
  | cons c cs ih => rw [withLines, List.map_cons, ih]

theorem withLines_getElem? {line i : Nat} {cs : List Char} (h : i < cs.length) :
    (withLines line cs)[i]?.map (·.2) = some (line + (cs.take i).count '\n') := by
  induction cs generalizing line i with
  | nil => cases h
  | cons c cs ih =>
    cases i with
    | zero => rfl
    | succ i =>
      rw [withLines, List.getElem?_cons_succ, ih (Nat.lt_of_succ_lt_succ h), List.take_succ_cons,
        List.count_singleton, List.count_cons, Nat.add_assoc, Nat.add_comm (ite _ _ _)]

theorem decodeEscapes_of_plain (data : List Char) {line : Nat} {done piece : List (Char × Nat)}
    {rest : List Char} (hfuel : rest.length < fuel) (h : Text.occurs ['\\', 'u'] rest = false) :
    decodeEscapes data fuel line done piece rest =
      .ok (done.reverse ++ piece.reverse ++ withLines line rest) := by
  induction fuel generalizing line piece rest with
  | zero => exact absurd hfuel (Nat.not_lt_zero _)
  | succ fuel ih =>
    rw [decodeEscapes.eq_def]
    dsimp only
    split
    · rw [withLines, List.append_nil]
    · -- the marker would stand at the front
      simp [Text.occurs, Text.startsWith, Text.after?] at h
    · rename_i c more _
      rw [ih (by simp only [List.length_cons] at hfuel; omega) (occurs_tail (occurs_tail h))]
      simp [withLines]
    · rename_i c more _ _
      rw [ih (by simp only [List.length_cons] at hfuel; omega) (occurs_tail h)]
      simp [withLines]

theorem lined_of_plain (h : Text.occurs ['\\', 'u'] data = false) :
    lined data = .ok (withLines 1 data) :=
  decodeEscapes_of_plain data (Nat.lt_succ_self _) h

theorem unescape_of_plain (h : Text.occurs ['\\', 'u'] data = false) : unescape data = .ok data := by
  rw [unescape, lined_of_plain h, Except.map, map_withLines]

/-! Sources. -/

/-- The words of a source, each with everything in front of it, escapes replaced. -/
def sourceWords (source : String) : List (List Char × Token) :=
  match unescape source.toList with
  | .ok data => placedWords data
  | .error _ => []

theorem tokens_eq {source : String} {ts : List Token} (h : tokens source = .ok ts) :
    ts = (sourceWords source).map (·.2) := by
  unfold tokens at h
  unfold sourceWords
  cases hdata : unescape source.toList with
  | error e => simp [hdata, bind, Except.bind] at h
  | ok data =>
    rw [hdata] at h
    exact tokensFrom_eq h

/-- The line of a source on which the character is written that is read at a place. -/
def writtenLine (source : String) (index : Nat) : Nat :=
  (((lined source.toList).toOption.getD [])[index]?.map (·.2)).getD 0

/-- The line of a word and the line feeds inside of the words in front of it make the line of the text
with the escapes replaced. Where nothing is escaped, this is the line on which the word is written. -/
theorem sourceWords_line {source : String}
    {word : List Char × Token} (h : sourceWords source = before ++ word :: after) :
    word.2.position.line + lineFeedsIn before = 1 + word.1.count '\n' ∧
      (Text.occurs ['\\', 'u'] source.toList = false →
        word.1 ++ word.2.text.toList <+: source.toList ∧
          writtenLine source word.1.length = 1 + word.1.count '\n') := by
  unfold sourceWords at h
  cases hdata : unescape source.toList with
  | error e => simp [hdata] at h
  | ok data =>
    rw [hdata] at h
    obtain ⟨hline, hplace, hlength⟩ := placedWords_line h
    refine ⟨hline, fun hplain => ?_⟩
    obtain rfl := Except.ok.inj (hdata.symm.trans (unescape_of_plain hplain))
    have hfront := List.prefix_iff_eq_take.mp ((List.prefix_append _ _).trans hplace)
    rw [writtenLine, lined_of_plain hplain]
    refine ⟨hplace, ?_⟩
    change ((withLines 1 source.toList)[word.1.length]?.map (·.2)).getD 0 = _
    rw [withLines_getElem? hlength, ← hfront, Option.getD_some]

/-! Trees. -/

namespace Node
variable {P Q : Type} (f : P → Q)

mutual

theorem walk_map : ∀ n : Node P, (n.map f).walk = n.walk.map (map f)
  | mk kind place children => by rw [map, walk, walk, List.map_cons, map, walkChildren_map children]

theorem walkChildren_map : ∀ children : List (Part × Node P),
    walkChildren (mapChildren f children) = (walkChildren children).map (map f)
  | [] => rfl
  | (part, n) :: rest => by
    rw [mapChildren, walkChildren, walkChildren, List.map_append, walk_map n, walkChildren_map rest]

end

theorem position_map (n : Node P) : (n.map f).position = n.position.map f := by
  cases n
  rw [map]
  rfl

end Node

/-- The grammar reads words with the proof that each is at a place of the source, and only such places
get into the tree. -/
theorem parse_places {words : List Token} {unit n : Node} {p : Position}
    (h : parse words = .ok unit) (hn : n ∈ unit.walk) (hp : n.position = some p) :
    ∃ t ∈ words, t.position = p := by
  unfold parse at h
  generalize (Grammar.compilationUnit (rules maxDepth) _).1 = result at h
  cases result with
  | error f => cases h
  | ok tree =>
  obtain rfl := Except.ok.inj h
  rw [Node.walk_map] at hn
  obtain ⟨m, -, rfl⟩ := List.mem_map.mp hn
  rw [Node.position_map] at hp
  obtain ⟨q, -, rfl⟩ := Option.map_eq_some_iff.mp hp
  exact q.2

theorem read_places {source : String} {unit n : Node} {p : Position}
    (h : read source = .ok unit) (hn : n ∈ unit.walk) (hp : n.position = some p) :
    ∃ word ∈ sourceWords source, word.2.position = p := by
  unfold read at h
  split at h
  · cases h
  rename_i words hwords
  split at h
  · cases h
  rename_i parsed hparse
  cases h
  obtain ⟨t, ht, htp⟩ := parse_places hparse hn hp
  rw [tokens_eq hwords] at ht
  obtain ⟨word, hword, rfl⟩ := List.mem_map.mp ht
  exact ⟨word, hword, htp⟩

end DroidAudit.Java
