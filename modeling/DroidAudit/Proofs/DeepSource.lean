import DroidAudit.Proofs.CollectedExtras
import DroidAudit.Proofs.WordLines

/-! A source file whose tree lies too deep. A dotted type is read part by part without any nesting of
rules, while each of its parts hangs below the one in front; so a long dotted type is read well and
gives a tree that cannot be searched. -/
namespace DroidAudit
namespace Java

def dotted (n : Nat) : List Char := (List.replicate n ['a', '.']).flatten

def readerChars : List Char := " x;\nvoid onCreate()\x7bgetStringExtra(\"k\");\x7d\x7d".toList

def deepSource (n : Nat) : String :=
  String.ofList ("class A\x7b\n".toList ++ (dotted n ++ 'a' :: readerChars))

def dottedWords (line column : Nat) : Nat → List Token
  | 0 => []
  | n + 1 =>
    ⟨.identifier, "a", ⟨line, column + 1⟩⟩ :: ⟨.separator, ".", ⟨line, column + 2⟩⟩ ::
      dottedWords line (column + 2) n

def frontWords : List Token :=
  [⟨.keyword, "class", ⟨1, 1⟩⟩, ⟨.identifier, "A", ⟨1, 7⟩⟩, ⟨.separator, "\x7b", ⟨1, 8⟩⟩]

/-- The words from the last part of the type on, which stands at a column. -/
def readerWords (column : Nat) : List Token :=
  [⟨.identifier, "a", ⟨2, column + 1⟩⟩, ⟨.identifier, "x", ⟨2, column + 3⟩⟩,
    ⟨.separator, ";", ⟨2, column + 4⟩⟩, ⟨.keyword, "void", ⟨3, 1⟩⟩,
    ⟨.identifier, "onCreate", ⟨3, 6⟩⟩, ⟨.separator, "(", ⟨3, 14⟩⟩, ⟨.separator, ")", ⟨3, 15⟩⟩,
    ⟨.separator, "\x7b", ⟨3, 16⟩⟩, ⟨.identifier, "getStringExtra", ⟨3, 17⟩⟩,
    ⟨.separator, "(", ⟨3, 31⟩⟩, ⟨.literal, "\"k\"", ⟨3, 32⟩⟩, ⟨.separator, ")", ⟨3, 35⟩⟩,
    ⟨.separator, ";", ⟨3, 36⟩⟩, ⟨.separator, "\x7d", ⟨3, 37⟩⟩, ⟨.separator, "\x7d", ⟨3, 38⟩⟩]

def deepWords (n : Nat) : List Token := frontWords ++ (dottedWords 2 0 n ++ readerWords (2 * n))

/-! Words. Each lemma passes over a few words; the numbers say where these stand. -/

theorem tokensFrom_class (data cs : List Char) (fuel : Nat) :
    tokensFrom data (fuel + 2) ⟨"class A\x7b\n".toList ++ 'a' :: cs, 0, 1, 0, 0⟩ [] =
      tokensFrom data fuel ⟨"A\x7b\n".toList ++ 'a' :: cs, 6, 1, 6, 5⟩
        [⟨.keyword, "class", ⟨1, 1⟩⟩] := by
  rfl

theorem tokensFrom_name (data cs : List Char) (fuel : Nat) :
    tokensFrom data (fuel + 3) ⟨"A\x7b\n".toList ++ 'a' :: cs, 6, 1, 6, 5⟩
        [⟨.keyword, "class", ⟨1, 1⟩⟩] =
      tokensFrom data fuel ⟨'a' :: cs, 9, 2, 0, 8⟩ frontWords.reverse := by
  rfl

theorem tokensFrom_part (data cs : List Char) (fuel i l c e : Nat) (done : List Token) :
    tokensFrom data (fuel + 2) ⟨'a' :: '.' :: 'a' :: cs, i, l, c, e⟩ done =
      tokensFrom data fuel ⟨'a' :: cs, i + 2, l, c + 2, i + 2⟩
        (⟨.separator, ".", ⟨l, c + 2⟩⟩ :: ⟨.identifier, "a", ⟨l, c + 1⟩⟩ :: done) := by
  rfl

theorem tokensFrom_reader (data : List Char) (fuel i c e : Nat) (done : List Token) :
    tokensFrom data (fuel + 21) ⟨'a' :: readerChars, i, 2, c, e⟩ done =
      .ok (done.reverse ++ readerWords c) := by
  rw [← List.reverse_reverse (_ ++ _), List.reverse_append, List.reverse_reverse]
  rfl

theorem dotted_succ (n : Nat) : dotted (n + 1) = 'a' :: '.' :: dotted n := by
  rw [dotted, List.replicate_succ, List.flatten_cons]
  rfl

theorem exists_dotted_append (n : Nat) (cs : List Char) :
    ∃ ds, dotted n ++ 'a' :: cs = 'a' :: ds := by
  cases n with
  | zero => exact ⟨cs, rfl⟩
  | succ n => exact ⟨'.' :: (dotted n ++ 'a' :: cs), by rw [dotted_succ]; rfl⟩

theorem tokensFrom_dotted (data cs : List Char) (n fuel i l c e : Nat) (done : List Token) :
    ∃ i' e', tokensFrom data (fuel + 2 * n) ⟨dotted n ++ 'a' :: cs, i, l, c, e⟩ done =
      tokensFrom data fuel ⟨'a' :: cs, i', l, c + 2 * n, e'⟩
        ((dottedWords l c n).reverse ++ done) := by
  induction n generalizing i c e done with
  | zero => exact ⟨i, e, rfl⟩
  | succ n ih =>
    obtain ⟨ds, hds⟩ := exists_dotted_append n cs
    obtain ⟨i', e', hrest⟩ := ih (i + 2) (c + 2) (i + 2)
      (⟨.separator, ".", ⟨l, c + 2⟩⟩ :: ⟨.identifier, "a", ⟨l, c + 1⟩⟩ :: done)
    have hpart := tokensFrom_part data ds (fuel + 2 * n) i l c e done
    have hcolumn : c + 2 * (n + 1) = c + 2 + 2 * n := by omega
    rw [← hds] at hpart
    rw [dotted_succ, hcolumn, dottedWords, List.reverse_cons, List.reverse_cons, List.append_assoc,
      List.append_assoc]
    exact ⟨i', e', hpart.trans hrest⟩

theorem occurs_of_not_mem {cs : List Char} (h : '\\' ∉ cs) :
    Text.occurs ['\\', 'u'] cs = false := by
  induction cs with
  | nil => rfl
  | cons c cs ih =>
    rw [List.mem_cons, not_or] at h
    have hstart : Text.startsWith ['\\', 'u'] (c :: cs) = false := by
      simp [Text.startsWith, Text.after?, h.1]
    rw [Text.occurs, hstart, ih h.2, Bool.or_self]

theorem tokens_of_plain {s : String} (h : Text.occurs ['\\', 'u'] s.toList = false) :
    tokens s = tokensFrom s.toList (s.toList.length + 1) ⟨s.toList, 0, 1, 0, 0⟩ [] := by
  rw [tokens, unescape_of_plain h]
  rfl

theorem mem_dotted {c : Char} {n : Nat} (h : c ∈ dotted n) : c = 'a' ∨ c = '.' := by
  obtain ⟨part, hpart, hc⟩ := List.mem_flatten.mp h
  rw [List.eq_of_mem_replicate hpart] at hc
  simpa using hc

theorem toList_deepSource (n : Nat) :
    (deepSource n).toList = "class A\x7b\n".toList ++ (dotted n ++ 'a' :: readerChars) :=
  String.toList_ofList

/-- What holds of the few characters that occur holds of all. -/
theorem forall_deepSource {p : Char → Bool} (n : Nat)
    (h : ("class A\x7b\n".toList ++ '.' :: 'a' :: readerChars).all p = true) :
    ∀ c ∈ (deepSource n).toList, p c = true := by
  intro c hc
  refine List.all_eq_true.mp h c ?_
  rw [toList_deepSource, List.mem_append, List.mem_append] at hc
  rw [List.mem_append]
  rcases hc with hc | hc | hc
  · exact .inl hc
  · rcases mem_dotted hc with rfl | rfl <;> simp
  · exact .inr (List.mem_cons_of_mem _ hc)

theorem length_deepSource (n : Nat) : (deepSource n).toList.length = 52 + 2 * n := by
  have hfront : "class A\x7b\n".toList.length = 9 := rfl
  have hback : readerChars.length = 42 := rfl
  have hdotted : (dotted n).length = 2 * n := by simp [dotted, Nat.mul_comm]
  rw [toList_deepSource, List.length_append, List.length_append, hdotted, List.length_cons, hfront,
    hback]
  omega

theorem tokens_deepSource (n : Nat) : tokens (deepSource n) = .ok (deepWords n) := by
  have hplain : Text.occurs ['\\', 'u'] (deepSource n).toList = false := by
    refine occurs_of_not_mem fun hmem => ?_
    simpa using forall_deepSource (p := (· != '\\')) n rfl _ hmem
  have hfuel : (deepSource n).toList.length + 1 = 27 + 21 + 2 * n + 3 + 2 := by
    rw [length_deepSource]
    omega
  obtain ⟨ds, hds⟩ := exists_dotted_append n readerChars
  have hstart : tokens (deepSource n) =
      tokensFrom (deepSource n).toList (27 + 21 + 2 * n + 3 + 2)
        ⟨"class A\x7b\n".toList ++ 'a' :: ds, 0, 1, 0, 0⟩ [] := by
    rw [tokens_of_plain hplain, hfuel, ← hds]
    exact congrArg (fun cs => tokensFrom _ _ ⟨cs, 0, 1, 0, 0⟩ []) (toList_deepSource n)
  have hclass := tokensFrom_class (deepSource n).toList ds (27 + 21 + 2 * n + 3)
  have hname := tokensFrom_name (deepSource n).toList ds (27 + 21 + 2 * n)
  obtain ⟨i, e, hdotted⟩ := tokensFrom_dotted (deepSource n).toList readerChars n (27 + 21) 9 2 0 8
    frontWords.reverse
  have hreader := tokensFrom_reader (deepSource n).toList 27 i (0 + 2 * n) e
    ((dottedWords 2 0 n).reverse ++ frontWords.reverse)
  rw [hds] at hdotted
  rw [hstart, hclass.trans (hname.trans (hdotted.trans hreader)), List.reverse_append,
    List.reverse_reverse, List.reverse_reverse, List.append_assoc, deepWords, Nat.zero_add]

/-! The tree of the class. -/

/-- The tree of a dotted type: each part hangs below the one in front. -/
def dottedType : Nat → Node
  | 0 => .mk (.referenceType "a") none []
  | n + 1 => .mk (.referenceType "a") none [(.other, dottedType n)]

def readerNode : Node :=
  .mk (.methodDeclaration "onCreate") (some ⟨3, 1⟩)
    [(.body, .mk .statementExpression (some ⟨3, 17⟩)
      [(.other, .mk (.methodInvocation (some "") "getStringExtra") (some ⟨3, 17⟩)
        [(.argument, .mk (.literal "\"k\"") (some ⟨3, 32⟩) [])])])]

def fieldNode (n : Nat) : Node :=
  .mk .fieldDeclaration (some ⟨2, 1⟩)
    [(.type, dottedType n), (.declarator, .mk (.variableDeclarator "x") none [])]

def classNode (n : Nat) : Node :=
  .mk (.classDeclaration "A") (some ⟨1, 1⟩) [(.body, fieldNode n), (.body, readerNode)]

def deepTree (n : Nat) : Node := .mk .compilationUnit none [(.other, classNode n)]

theorem parse_deepWords : parse (deepWords 980) = .ok (deepTree 980) := by
  decide +kernel

theorem read_of_parse {source : String} {words : List Token} {tree : Node}
    (hwords : tokens source = .ok words) (htree : parse words = .ok tree) :
    read source = .ok tree := by
  simp only [read, hwords, htree]

theorem read_deepSource : read (deepSource 980) = .ok (deepTree 980) :=
  read_of_parse (tokens_deepSource 980) parse_deepWords

end Java

namespace ExportedDetector
open DroidAudit.Java

def AreQuiet (nodes : List Node) : Prop :=
  nodes.filterMap Node.declaredMethod? = [] ∧ extraLiterals nodes = []

theorem extraLiterals_append (nodes nodes' : List Node) :
    extraLiterals (nodes ++ nodes') = extraLiterals nodes ++ extraLiterals nodes' := by
  rw [extraLiterals, List.filter_append, List.flatMap_append]
  rfl

theorem AreQuiet.cons_type {nodes : List Node} (h : AreQuiet nodes) (name : String)
    (position : Option Position) (children : List (Part × Node)) :
    AreQuiet (.mk (.referenceType name) position children :: nodes) :=
  ⟨h.1, h.2⟩

theorem walk_dottedType (n : Nat) : AreQuiet (dottedType n).walk := by
  induction n with
  | zero => exact ⟨rfl, rfl⟩
  | succ n ih =>
    rw [dottedType, Node.walk, Node.walkChildren, Node.walkChildren, List.append_nil]
    exact ih.cons_type _ _ _

theorem walkWithin_dottedType (n room : Nat) :
    AreQuiet ((dottedType n).walkWithin room).1 ∧
      (((dottedType n).walkWithin room).2 = true ↔ n ≤ room) := by
  induction n generalizing room with
  | zero => exact ⟨⟨rfl, rfl⟩, by simp [dottedType, Node.walkWithin, Node.walkChildrenWithin]⟩
  | succ n ih =>
    have hbelow : levelsBelow (.referenceType "a") (dottedType n).kind = 1 := by
      cases n <;> rfl
    rw [dottedType, Node.walkWithin, Node.walkChildrenWithin, hbelow]
    obtain ⟨hquiet, hwhole⟩ := ih (room - 1)
    by_cases hroom : room < 1
    · rw [if_pos hroom]
      refine ⟨⟨rfl, rfl⟩, ?_⟩
      simp only [Bool.false_eq_true, false_iff]
      omega
    · rw [if_neg hroom]
      rcases hwalk : (dottedType n).walkWithin (room - 1) with ⟨found, whole⟩
      rw [hwalk] at hquiet hwhole
      cases whole with
      | false =>
        refine ⟨hquiet.cons_type _ _ _, ?_⟩
        simp only [Bool.false_eq_true, false_iff] at hwhole ⊢
        omega
      | true =>
        simp only [Node.walkChildrenWithin, List.append_nil]
        refine ⟨hquiet.cons_type _ _ _, ?_⟩
        simp only [true_iff] at hwhole ⊢
        omega

theorem contributes_deepTree (n : Nat) :
    contributes ["onCreate", "onStart"] (deepTree n) = true ∧
      extraLiterals (deepTree n).walk = ["\"k\""] := by
  obtain ⟨hmethods, hliterals⟩ := walk_dottedType n
  have hwalk : (deepTree n).walk = [deepTree n, classNode n, fieldNode n] ++
      ((dottedType n).walk ++ .mk (.variableDeclarator "x") none [] :: readerNode.walk) := by
    simp [deepTree, classNode, fieldNode, Node.walk, Node.walkChildren]
  have hextra : extraLiterals (deepTree n).walk = ["\"k\""] := by
    rw [hwalk, extraLiterals_append, extraLiterals_append, hliterals]
    rfl
  refine ⟨?_, hextra⟩
  rw [contributes, hextra, hwalk, List.filterMap_append, List.filterMap_append, hmethods]
  rfl

theorem gained_deepTree {n : Nat} (h : 979 < n) (methods : List String) :
    gained methods (deepTree n) = [] ∧ (deepTree n).reached.2 = false := by
  obtain ⟨hquiet, hwhole⟩ := walkWithin_dottedType n 979
  rcases hwalk : (dottedType n).walkWithin 979 with ⟨found, whole⟩
  rw [hwalk] at hquiet hwhole
  obtain rfl : whole = false := by
    cases whole with
    | false => rfl
    | true =>
      have := hwhole.mp rfl
      omega
  have hreached : (deepTree n).reached =
      ([deepTree n, classNode n, fieldNode n] ++ found, false) := by
    simp [deepTree, classNode, fieldNode, Node.reached, maxDepth, Node.walkWithin,
      Node.walkChildrenWithin, levelsBelow, Kind.holdsSingly, hwalk]
  refine ⟨?_, by rw [hreached]⟩
  rw [gained, hreached, List.filterMap_append, hquiet.1]
  rfl

/-! The search through the class. -/

/-- One file, with a class whose field has a type that lies too deep. -/
def deepFiles : FileSystem := .oneSource (deepSource 980).toUTF8

theorem textAt_deepFiles : deepFiles.textAt (some "A.java") = .ok (deepSource 980) := by
  refine FileSystem.textAt_of_plain (deepSource 980).toUTF8 rfl (Text.plainText?_toUTF8 ?_ ?_)
  · rw [Text.isPlain, Bool.not_eq_true', List.any_eq_false]
    exact fun c hc => by simpa using forall_deepSource (p := (!Text.isReserved ·)) 980 rfl c hc
  · exact fun hmem => by simpa using forall_deepSource (p := (· != '\r')) 980 rfl _ hmem

/-- The only file reads an extra where the activity is entered. The search for it fails, and the
finding records no extra. -/
theorem deep_type_hides_extra :
    (∀ file ∈ ["A.java"], deepFiles.Passable file) ∧
      firstArguments ["onCreate", "onStart"]
          (treesFor deepFiles (Text.replace "A" "." "/") ["A.java"]) =
        some (.list [.text "\"k\""]) ∧
      (complete deepFiles ["A.java"] openFinding).1.exploit.get? "arguments" = some (.list []) ∧
      (complete deepFiles ["A.java"] openFinding).2 = some .tooDeep := by
  have hpass : ∀ file ∈ ["A.java"], deepFiles.Passable file := by
    intro file hfile
    obtain rfl := List.mem_singleton.mp hfile
    refine .inr ⟨_, textAt_deepFiles, fun e he => ?_⟩
    rw [read_deepSource] at he
    cases he
  have htrees : treesFor deepFiles (Text.replace "A" "." "/") ["A.java"] = [deepTree 980] := by
    have hneedle : Text.contains "A.java" (Text.replace "A" "." "/") = true := rfl
    have htree : deepFiles.treeAt? "A.java" = some (deepTree 980) := by
      simp only [FileSystem.treeAt?, textAt_deepFiles, read_deepSource]
      rfl
    rw [treesFor_cons, if_pos hneedle, htree]
    rfl
  obtain ⟨hcontributes, hliterals⟩ := contributes_deepTree 980
  obtain ⟨hgained, hdeep⟩ := gained_deepTree (n := 980) (by omega) ["onCreate", "onStart"]
  have hends : ending? ["onCreate", "onStart"] [deepTree 980] = some (deepTree 980) :=
    List.find?_cons_of_pos (by rw [ends, hdeep]; simp)
  have hreport : IsReport {} .activity "A" openFinding := ⟨_, _, _, rfl⟩
  obtain ⟨harguments, hfailure⟩ := hreport.complete_eq rfl hpass
  refine ⟨hpass, ?_, ?_, ?_⟩
  · rw [htrees, firstArguments, if_neg (List.cons_ne_nil _ _), List.find?_cons_of_pos hcontributes,
      Option.elim_some, hliterals]
    rfl
  · rw [harguments, htrees, if_neg (List.cons_ne_nil _ _), collected, hends, Option.elim_some,
      hgained]
    rfl
  · rw [hfailure, htrees, stopped, hends, Option.bind_some, hdeep]
    rfl

end ExportedDetector
end DroidAudit
