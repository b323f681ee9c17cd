import DroidAudit.Proofs.NamedFile
import DroidAudit.Proofs.PlainPath
import DroidAudit.Proofs.UnsettledViews
import DroidAudit.Proofs.WordLines

/-! Which line a finding on a Java file records. Detectors that count the lines of the text count them
from zero. All others record places of words, whose lines are counted from one in the text with its
escapes replaced, but without the line feeds inside of quoted words. Main statement: the recorded lines
are right exactly when no detector of lines finds anything and, in front of each recorded place, as many
line feeds stand inside of quoted words as are brought in by escapes. -/
namespace DroidAudit
open Java (sourceWords lineFeedsIn writtenLine)

/-! Java files are no binary files. -/

namespace Text

theorem lowerFrom_concat (c : Char) (hsigma : c ≠ 'Σ') (hdotted : c ≠ 'İ') (cs before : List Char) :
    (lowerFrom before (cs ++ [c])).getLast? = some (lowerChar c) := by
  induction cs generalizing before with
  | nil => simp [lowerFrom, hsigma, hdotted]
  | cons d cs ih =>
    rw [List.cons_append, lowerFrom, List.getLast?_append, ih]
    rfl

theorem getLast?_of_hasSuffix {text ending : String} {c : Char}
    (hending : ending.toList.getLast? = some c) (h : hasSuffix text ending = true) :
    text.toList.getLast? = some c := by
  obtain ⟨init, hinit⟩ := List.getLast?_eq_some_iff.mp hending
  rw [hasSuffix, endsWith, startsWith, hinit, List.reverse_concat] at h
  rw [List.getLast?_eq_head?_reverse]
  cases htext : text.toList.reverse with
  | nil => simp [htext, after?] at h
  | cons d rest =>
    simp only [htext, after?] at h
    split at h
    · rename_i hfirst
      rw [List.head?_cons, eq_of_beq hfirst]
    · cases h

theorem head?_of_takeWhile {p : Char → Bool} {cs : List Char} {c : Char}
    (h : (cs.takeWhile p).head? = some c) : cs.head? = some c := by
  rw [List.head?_takeWhile, Option.filter_eq_some_iff] at h
  exact h.1

end Text

namespace Path

theorem getLast?_of_extension {p ending : String} {c : Char} (h : extension p = ending)
    (hending : ending.toList.getLast? = some c) (hdot : c ≠ '.') : p.toList.getLast? = some c := by
  subst h
  unfold extension cutExtension at hending
  dsimp only at hending
  split at hending
  · rw [String.toList_ofList, cut, List.reverse_reverse] at hending
    cases hbehind : (p.toList.reverse.takeWhile (· != '/')).takeWhile (· != '.') with
    | nil =>
      rw [hbehind] at hending
      exact absurd (Option.some.inj hending).symm hdot
    | cons last rest =>
      rw [hbehind, List.reverse_cons, ← List.cons_append, List.getLast?_concat] at hending
      rw [List.getLast?_eq_head?_reverse, ← hending]
      exact Text.head?_of_takeWhile (Text.head?_of_takeWhile (congrArg List.head? hbehind))
  · simp at hending

end Path

namespace ContentDetector

/-- The last letter of a path stays the last when letters are made small, and no binary extension ends
in the letter in which the extension of Java files does. -/
theorem not_binary_of_java {path : String} (h : Path.isJavaFile path = true) :
    binaryExtensions.any (Text.hasSuffix path) = false := by
  have hends : binaryExtensions.all (fun e => e.toList.getLast?.any fun c =>
      c != 'Σ' && c != 'İ' && Text.lowerChar c != 'a') = true := by
    decide +kernel
  have hjava : (Text.lower path).toList.getLast? = some 'a' :=
    Path.getLast?_of_extension (eq_of_beq h) (by decide) (by decide)
  rw [List.any_eq_false]
  intro e he hsuffix
  obtain ⟨c, hc, hplain⟩ := Option.any_eq_true _ _ |>.mp (List.all_eq_true.mp hends e he)
  simp only [Bool.and_eq_true, bne_iff_ne] at hplain
  obtain ⟨⟨hsigma, hdotted⟩, hlower⟩ := hplain
  obtain ⟨init, hinit⟩ := List.getLast?_eq_some_iff.mp (Text.getLast?_of_hasSuffix hc hsuffix)
  rw [Text.lower, String.toList_ofList, Text.lowerChars, hinit,
    Text.lowerFrom_concat c hsigma hdotted] at hjava
  exact hlower (Option.some.inj hjava)

end ContentDetector

/-! Files and what is reported on them. -/

structure Sight.OfJava (s : Sight) (text : String) : Prop where
  path : ∃ path, s.path = some path ∧ Path.isJavaFile path = true
  contents : s.contents = some text
  tree : ∀ tree ∈ s.tree, Java.read text = .ok tree

namespace Detector

/-- All that a detector reports on a file. Detectors of nodes are asked and shown the nodes that can be
reached. -/
def onFile (d : Detector) (w : Surroundings) (s : Sight) : List Finding :=
  match d.family with
  | .stream _ => d.yields w s ((s.tree.map fun tree => tree.reached.1).getD [])
  | _ => (d.run w s none []).1

variable {s : Sight} {d : Detector}

/-- Nodes for which something is reported are in the tree. -/
theorem Fires.mem_walk {w : Surroundings} {tree n : Java.Node} (h : d.Fires w s tree n) :
    n ∈ tree.walk := by
  cases h with
  | shown hn _ => exact hn
  | proceeds m _ hm _ hn _ => exact Java.Node.mem_walk_trans hn tree hm
  | stays method m left _ hm hleft hn =>
    exact Java.Node.mem_walk_trans (WebViewDetector.mem_walk_of_unsettled hleft hn) tree hm

theorem yields_noted (d : Detector) (w : Surroundings) {nodes : List Java.Node}
    (hnodes : ∀ n ∈ nodes, ∃ tree, s.tree = some tree ∧ n ∈ tree.walk) :
    AllNoted s.path (d.FiresAt w s) (d.yields w s nodes) := by
  unfold yields
  split
  · exact .nil
  · rename_i wants asked hmay
    refine .append (d.mayRun_noted w hmay) ?_
    split
    · refine .flatMap fun n hn => ?_
      obtain ⟨tree, ht, hwalk⟩ := hnodes n hn
      exact d.see_noted w ht hwalk
    · exact .nil

theorem onFile_noted (hd : d.family ≠ .manifest) (hcounts : d.countsLines = false)
    (w : Surroundings) : AllNoted s.path (d.FiresAt w s) (d.onFile w s) := by
  unfold onFile
  split
  · refine d.yields_noted w fun n hn => ?_
    cases htree : s.tree with
    | none =>
      rw [htree] at hn
      cases hn
    | some tree =>
      rw [htree] at hn
      exact ⟨tree, rfl, Java.Node.mem_walk_of_reached hn⟩
  · exact run_noted hd hcounts w s none

/-! Detectors that count lines. -/

/-- How often a detector that counts lines finds something on a line. -/
def hits : Detector → List Char → Nat
  | contentKeys, line =>
    ((Text.words line).filter fun word =>
      Pattern.looksLikeKey word && !Pattern.hasSpecialCharacter word).length
  | plainUrl, line => if (Pattern.plainUrl? line).isSome then 1 else 0
  | _, _ => 0

/-- The numbers of lines, the first of which is `first`, each as often as something is found there. -/
def hitLinesFrom (d : Detector) (first : Nat) (lines : List (List Char)) : List Nat :=
  (Text.numbered first lines).flatMap fun l => List.replicate (d.hits l.2) l.1

/-- The numbers of the lines of a text, counted from one, each as often as something is found
there. -/
def hitLines (d : Detector) (text : String) : List Nat := d.hitLinesFrom 1 (Text.lines text.toList)

theorem hitLinesFrom_cons (d : Detector) (first : Nat) (line : List Char)
    (lines : List (List Char)) :
    d.hitLinesFrom first (line :: lines) =
      List.replicate (d.hits line) first ++ d.hitLinesFrom (first + 1) lines := rfl

theorem hitLines_of_places (h : d.countsLines = false) (text : String) : d.hitLines text = [] := by
  refine List.flatMap_eq_nil_iff.mpr fun l _ => ?_
  cases d with
  | contentKeys => cases h
  | plainUrl => cases h
  | _ => rfl

/-- The line in front of the one with number `n`, as a detector that counts lines records it. -/
def recorded (n : Nat) : Value := .tuple [.int ((n : Int) - 1), .int 0]

theorem recorded_succ (number : Nat) :
    recorded (number + 1) = .tuple [.int number, .int 0] := by
  rw [recorded, Int.natCast_succ, Int.add_sub_cancel]

theorem numbered_lines {report : Nat × List Char → List Finding}
    (h : ∀ l, (report l).map (·.line) = List.replicate (d.hits l.2) (recorded (l.1 + 1)))
    (number : Nat) (lines : List (List Char)) :
    ((Text.numbered number lines).flatMap report).map (·.line) =
      (d.hitLinesFrom (number + 1) lines).map recorded := by
  induction lines generalizing number with
  | nil => rfl
  | cons line lines ih =>
    rw [Text.numbered, List.flatMap_cons, List.map_append, h, ih, hitLinesFrom_cons,
      List.map_append, List.map_replicate]

theorem onFile_lines (hcounts : d.countsLines = true) (w : Surroundings)
    {text : String} (hs : s.OfJava text) :
    (d.onFile w s).map (·.line) = (d.hitLines text).map recorded := by
  obtain ⟨path, hpath, hjava⟩ := hs.path
  cases d with
  | contentKeys =>
    simp only [onFile, family, run, ContentDetector.keys, hpath, hs.contents, plainly,
      ContentDetector.not_binary_of_java hjava, Bool.false_eq_true, if_false, List.nil_append]
    refine numbered_lines (fun l => ?_) 0 _
    rw [List.map_map, recorded_succ]
    exact List.map_const' ..
  | plainUrl =>
    simp only [onFile, family, run, ContentDetector.plainUrls, hpath, hs.contents, plainly, hjava,
      Bool.not_true, Bool.false_eq_true, if_false, List.nil_append,
      List.filterMap_eq_flatMap_toList]
    refine numbered_lines (fun l => ?_) 0 _
    rw [recorded_succ]
    cases h : Pattern.plainUrl? l.2 with
    | none => simp [hits, h]
    | some url => simp [hits, h, ContentDetector.onLine]
  | _ => cases hcounts

/-! Right lines. -/

end Detector

/-- What is recorded is a pair that starts with the number of the line. -/
def Finding.OnLine (f : Finding) (n : Nat) : Prop := ∃ column, f.line = .tuple [.int n, column]

def Finding.recordedLine? (f : Finding) : Option Int :=
  match f.line with
  | .tuple (.int n :: _) => some n
  | _ => none

namespace Detector

/-- A finding is about a node: the detector reports something for the node, whose place is recorded. -/
def Reports (d : Detector) (w : Surroundings) (s : Sight) (f : Finding) (n : Java.Node) : Prop :=
  ∃ tree p, s.tree = some tree ∧ d.Fires w s tree n ∧ n.position = some p ∧ f.line = p.toValue

/-- What a detector reports on a Java file is recorded on the line where it was found: the line of the
text with the key or the address, or, if a line is recorded at all, the line of the source on which the
word is written with which the node starts that the finding is about. -/
structure LinesRight (d : Detector) (w : Surroundings) (s : Sight) (text : String) : Prop where
  counted : d.countsLines = true → List.Forall₂ Finding.OnLine (d.onFile w s) (d.hitLines text)
  placed : d.countsLines = false → ∀ f ∈ d.onFile w s, f.line ≠ .null → ∃ n, d.Reports w s f n ∧
    ∃ word ∈ sourceWords text, n.position = some word.2.position ∧
      f.OnLine (writtenLine text word.1.length)

/-- The finding is about a node, and in front of the word with which it starts as many line feeds are
hidden in words as are brought in by escapes. -/
def Balanced (d : Detector) (w : Surroundings) (s : Sight) (text : String) (f : Finding) : Prop :=
  ∃ n, d.Reports w s f n ∧ ∃ before word after, sourceWords text = before ++ word :: after ∧
    n.position = some word.2.position ∧
    writtenLine text word.1.length + lineFeedsIn before = 1 + word.1.count '\n'

variable {f : Finding} {text : String}

theorem not_onLine_of_recorded {n : Nat} (h : f.line = recorded n) : ¬ f.OnLine n := by
  rintro ⟨column, hline⟩
  rw [h, recorded] at hline
  injection hline with hline
  injection hline with hnumber
  injection hnumber with hnumber
  omega

theorem hitLines_of_onLine {found : List Finding} {hitLines : List Nat}
    (hlines : found.map (·.line) = hitLines.map recorded)
    (h : List.Forall₂ Finding.OnLine found hitLines) : hitLines = [] := by
  cases h with
  | nil => rfl
  | cons hfirst _ => exact absurd hfirst (not_onLine_of_recorded (List.cons.inj hlines).1)

theorem linesRight_iff_of_counts {d : Detector} (hcounts : d.countsLines = true) (w : Surroundings)
    {s : Sight} (hs : s.OfJava text) :
    d.LinesRight w s text ↔ d.hitLines text = [] ∧
      ∀ f ∈ d.onFile w s, f.line ≠ .null → d.Balanced w s text f := by
  have hlines := onFile_lines hcounts w hs
  have hnone (h : d.hitLines text = []) : d.onFile w s = [] := by
    rw [h] at hlines
    exact List.map_eq_nil_iff.mp hlines
  constructor
  · intro h
    have hhits := hitLines_of_onLine hlines (h.counted hcounts)
    refine ⟨hhits, fun f hf => ?_⟩
    rw [hnone hhits] at hf
    cases hf
  · rintro ⟨hhits, -⟩
    refine ⟨fun _ => ?_, fun hplaces => absurd (hcounts.symm.trans hplaces) (by decide)⟩
    rw [hnone hhits, hhits]
    exact .nil

theorem toValue_onLine_iff {p : Position} (h : f.line = p.toValue) (n : Nat) :
    f.OnLine n ↔ p.line = n := by
  constructor
  · rintro ⟨column, hline⟩
    rw [h, Position.toValue] at hline
    injection hline with hline
    injection hline with hnumber
    injection hnumber with hnumber
    exact Int.ofNat.inj hnumber
  · rintro rfl
    exact ⟨_, h⟩

theorem Reports.line {d : Detector} {w : Surroundings} {s : Sight} {n : Java.Node} {p : Position}
    (h : d.Reports w s f n) (hp : n.position = some p) : f.line = p.toValue := by
  obtain ⟨tree, q, -, -, hq, hline⟩ := h
  rwa [Option.some.inj (hp.symm.trans hq)]

theorem linesRight_iff_of_places {d : Detector} (hcounts : d.countsLines = false)
    {w : Surroundings} {s : Sight} :
    d.LinesRight w s text ↔
      ∀ f ∈ d.onFile w s, f.line ≠ .null → d.Balanced w s text f := by
  constructor
  · intro h f hf hsome
    obtain ⟨n, hn, word, hword, hplace, hright⟩ := h.placed hcounts f hf hsome
    obtain ⟨before, after, hsplit⟩ := List.append_of_mem hword
    have hnumber := (toValue_onLine_iff (hn.line hplace) _).mp hright
    have hline := (Java.sourceWords_line hsplit).1
    exact ⟨n, hn, before, word, after, hsplit, hplace, by omega⟩
  · intro h
    refine ⟨fun htrue => absurd (hcounts.symm.trans htrue) (by decide), ?_⟩
    intro _ f hf hsome
    obtain ⟨n, hn, before, word, after, hsplit, hplace, hfeeds⟩ := h f hf hsome
    have hline := (Java.sourceWords_line hsplit).1
    refine ⟨n, hn, word, by simp [hsplit], hplace, ?_⟩
    exact (toValue_onLine_iff (hn.line hplace) _).mpr (by omega)

theorem line_of_mem_zip {found : List Finding} {hitLines : List Nat} {g : Finding} {n : Nat}
    (hlines : found.map (·.line) = hitLines.map recorded) (h : (g, n) ∈ found.zip hitLines) :
    g.line = recorded n := by
  induction found generalizing hitLines with
  | nil => cases h
  | cons f found ih =>
    cases hitLines with
    | nil => cases h
    | cons m rest =>
      obtain ⟨hfirst, hrest⟩ := List.cons.inj hlines
      rw [List.zip_cons_cons] at h
      obtain h | h := List.mem_cons.mp h
      · cases h
        exact hfirst
      · exact ih hrest h

/-- A place on a line that is counted too gets the same number only if the count from zero and one
missed line feed make up for each other. -/
theorem recordedLine?_eq_iff {g : Finding}
    {before after : List (List Char × Java.Token)} {word : List Char × Java.Token}
    (hsplit : sourceWords text = before ++ word :: after)
    (hplace : f.line = word.2.position.toValue)
    (hg : g.line = recorded (writtenLine text word.1.length)) :
    g.recordedLine? = f.recordedLine? ↔
      writtenLine text word.1.length + lineFeedsIn before = 2 + word.1.count '\n' := by
  have hline := (Java.sourceWords_line hsplit).1
  simp only [Finding.recordedLine?, hplace, hg, recorded, Position.toValue, Option.some.injEq]
  omega

/-- On a Java file, a detector that counts lines records each line on which it finds something by the
number of the line in front of it. Any other records nothing or the place of a node for which it
reports something, where a word starts, and misses the line feeds inside of the words in front. So the
recorded lines are right exactly when nothing is found on counted lines and, in front of each recorded
place, words hide as many line feeds as escapes bring in; and what two detectors of either sort find on
one line gets one number exactly when one more is hidden. -/
theorem lines_right_iff {d : Detector} {s : Sight} {text : String} (hd : d.family ≠ .manifest)
    (hs : s.OfJava text) (w : Surroundings) :
    (d.countsLines = true → (d.onFile w s).map (·.line) =
      (d.hitLines text).map fun n => .tuple [.int ((n : Int) - 1), .int 0]) ∧
    (d.countsLines = false → ∀ f ∈ d.onFile w s, f.line = .null ∨
      ∃ n, d.Reports w s f n ∧ ∃ before word after, sourceWords text = before ++ word :: after ∧
        n.position = some word.2.position ∧ f.line = word.2.position.toValue ∧
        word.2.position.line + lineFeedsIn before = 1 + word.1.count '\n' ∧
        (Text.occurs ['\\', 'u'] text.toList = false →
          word.1 ++ word.2.text.toList <+: text.toList ∧
            writtenLine text word.1.length = 1 + word.1.count '\n')) ∧
    (d.LinesRight w s text ↔ d.hitLines text = [] ∧
      ∀ f ∈ d.onFile w s, f.line ≠ .null → d.Balanced w s text f) ∧
    (∀ f ∈ d.onFile w s, ∀ before word after, sourceWords text = before ++ word :: after →
      f.line = word.2.position.toValue → ∀ (e : Detector) (t : Sight), e.countsLines = true →
        t.OfJava text → ∀ g,
          (g, writtenLine text word.1.length) ∈ (e.onFile w t).zip (e.hitLines text) →
          (g.recordedLine? = f.recordedLine? ↔
            writtenLine text word.1.length + lineFeedsIn before = 2 + word.1.count '\n')) := by
  refine ⟨fun hcounts => onFile_lines hcounts w hs, fun hcounts f hf => ?_, ?_, ?_⟩
  · obtain ⟨notice, place, rfl, hplace⟩ := onFile_noted hd hcounts w f hf
    cases place with
    | none => exact .inl rfl
    | some p =>
      obtain ⟨tree, n, htree, hfires, hposition⟩ := hplace p rfl
      obtain ⟨word, hword, rfl⟩ := Java.read_places (hs.tree tree htree) hfires.mem_walk hposition
      obtain ⟨before, after, hsplit⟩ := List.append_of_mem hword
      obtain ⟨hline, hplain⟩ := Java.sourceWords_line hsplit
      exact .inr ⟨n, ⟨tree, _, htree, hfires, hposition, rfl⟩, before, word, after, hsplit, hposition,
        rfl, hline, hplain⟩
  · cases hcounts : d.countsLines with
    | true => exact linesRight_iff_of_counts hcounts w hs
    | false =>
      rw [linesRight_iff_of_places hcounts]
      exact (and_iff_right (hitLines_of_places hcounts text)).symm
  · intro f _ before word after hsplit hplace e t he ht g hg
    exact recordedLine?_eq_iff hsplit hplace (line_of_mem_zip (onFile_lines he w ht) hg)

/-! A call on the second line, and an address on the first. -/

def javaSight (text : String) : Sight := ⟨some "A.java", some text, (Java.read text).toOption⟩

theorem javaSight_ofJava (text : String) : (javaSight text).OfJava text where
  path := ⟨"A.java", rfl, by decide +kernel⟩
  contents := rfl
  tree _ htree := toOption_eq_some_iff.mp htree

def storageText : String := "class A \x7b\nA()\x7bgetExternalFilesDir(a);\x7d\x7d"

/-- No word goes over the end of the line and nothing is escaped, so the call is recorded on its line. -/
theorem lines_right_iff_storage :
    externalStorage.family ≠ .manifest ∧ (javaSight storageText).OfJava storageText ∧
      externalStorage.LinesRight ⟨.twoSources, {}⟩ (javaSight storageText) storageText ∧
      (externalStorage.onFile ⟨.twoSources, {}⟩ (javaSight storageText)).map
        (·.recordedLine?) = [some 2] := by
  have hwords : lineFeedsIn (sourceWords storageText) = 0 ∧
      Text.occurs ['\\', 'u'] storageText.toList = false ∧
      (externalStorage.onFile ⟨.twoSources, {}⟩ (javaSight storageText)).map
        (·.recordedLine?) = [some 2] := by
    decide +kernel
  have hfile : externalStorage.family ≠ .manifest := by decide
  have hjava := javaSight_ofJava storageText
  obtain ⟨-, hplaced, hright, -⟩ := lines_right_iff hfile hjava ⟨.twoSources, {}⟩
  refine ⟨hfile, hjava, hright.mpr ⟨hitLines_of_places rfl _, ?_⟩, hwords.2.2⟩
  intro f hf hsome
  obtain ⟨n, hn, before, word, after, hsplit, hplace, -, -, hplain⟩ :=
    (hplaced rfl f hf).resolve_left hsome
  have hnone := hwords.1
  rw [hsplit, lineFeedsIn, List.flatMap_append, List.count_append] at hnone
  have hbefore : lineFeedsIn before = 0 := Nat.eq_zero_of_add_eq_zero_right hnone
  exact ⟨n, hn, before, word, after, hsplit, hplace, by
    rw [hbefore, (hplain hwords.2.1).2, Nat.add_zero]⟩

/-- An address on the first line is recorded on line zero. -/
theorem first_line_recorded_zero :
    plainUrl.hitLines FileSystem.sourceA = [1] ∧
      (plainUrl.onFile ⟨.twoSources, {}⟩ (javaSight FileSystem.sourceA)).map
        (·.recordedLine?) = [some 0] ∧
      ¬ plainUrl.LinesRight ⟨.twoSources, {}⟩ (javaSight FileSystem.sourceA) FileSystem.sourceA := by
  have hfound : plainUrl.hitLines FileSystem.sourceA = [1] ∧
      (plainUrl.onFile ⟨.twoSources, {}⟩ (javaSight FileSystem.sourceA)).map
        (·.recordedLine?) = [some 0] := by
    decide +kernel
  refine ⟨hfound.1, hfound.2, fun h => ?_⟩
  have hright := (linesRight_iff_of_counts rfl _ (javaSight_ofJava FileSystem.sourceA)).mp h
  rw [hfound.1] at hright
  exact absurd hright.1 (by decide)

end Detector

end DroidAudit
