import DroidAudit.Java.Lexer
import DroidAudit.Java.Parser.Declaration

/-! Reading a Java source file. -/
namespace DroidAudit.Java

/-- The rules of the grammar, nested at most `fuel` deep. -/
def rules {P : Type} : Nat → Rules P
  | 0, _ => Parser.fail .tooDeep
  | fuel + 1, goal =>
    match goal with
    | .expression => Grammar.expression (rules fuel)
    | .conditional => Grammar.conditional (rules fuel)
    | .operand => Grammar.operand (rules fuel)
    | .initializer => Grammar.initializer (rules fuel)
    | .referenceType diamond => Grammar.referenceType (rules fuel) diamond
    | .note => Grammar.note (rules fuel)
    | .elementValue => Grammar.elementValue (rules fuel)
    | .statement => Grammar.statement (rules fuel)
    | .blockStatement => Grammar.blockStatement (rules fuel)
    | .typeDeclaration => Grammar.typeDeclaration (rules fuel)
    | .classMember => Grammar.classMember (rules fuel)
    | .interfaceMember => Grammar.interfaceMember (rules fuel)

namespace Grammar
open DroidAudit.Java.Parser

variable {P : Type}

def importPath : Nat → Parser P (List String × Bool)
  | 0 => misplaced
  | n + 1 => do
    let part ← name
    if ← passesText "." then
      if ← passesText "*" then
        word ";"
        return ([part], true)
      let (rest, wildcard) ← importPath n
      return (part :: rest, wildcard)
    word ";"
    return ([part], false)

def importName : Parser P (Node P) := do
  word "import"
  let static ← passesText "static"
  let (path, wildcard) ← importPath (← bound)
  return .mk (.importName (String.intercalate "." path) static wildcard) none []

/-- The package, if the file names one. Annotations in front of it are read in any case; without
a package reading goes back as an attempt does. -/
def packageName (r : Rules P) : Parser P (List (Node P)) := do
  modify fun reading => { reading with back := reading.words }
  let notes ← if ← seesNote then notes r else pure []
  if ← passesText "package" then
    let title ← dottedName
    word ";"
    return [.mk (.packageName title) none (others notes)]
  goTo (← get).back
  return []

/-- A declaration at the top of a file. Where it runs out of words, the last one is misplaced. -/
def topDeclaration (r : Rules P) : Parser P (List (Node P)) := nested do
  if ← passesText ";" then return []
  tryCatch (do return [← typeDeclaration r]) fun f =>
    fail (if f = .exhausted then .misplaced else f)

def compilationUnit (r : Rules P) : Parser P (Node P) := nested do
  let package ← packageName r
  let imports ← whileText "import" importName
  let types ← collect do
    if (← look).isNone then return none
    return some (← topDeclaration r)
  return .mk .compilationUnit none (others (package ++ imports ++ types.flatten))

end Grammar

inductive SourceError
  | lexical (e : LexicalError)
  | grammar (f : ParseFailure)
  deriving Repr, DecidableEq

/-- Whether a search passes over a text for this reason: a misplaced word, or a problem with
nothing to show. -/
def SourceError.isPassedOver : SourceError → Bool
  | .grammar .misplaced => true
  | .lexical .nothingToShow => true
  | _ => false

/-- The words, each at a place of one of them. -/
def placed (words : List Token) : List (Token {p // ∃ t ∈ words, t.position = p}) :=
  words.attach.map fun t => ⟨t.1.kind, t.1.text, t.1.position, t.1, t.2, rfl⟩

/-- The tree of a list of words. Every rule is a level of its own, so the rules run out only after
the levels. -/
def parse (words : List Token) : Except ParseFailure Node :=
  (Grammar.compilationUnit (rules maxDepth)
    ⟨placed words, placed words, words.length + 1, maxDepth⟩).1.map (Node.map Subtype.val)

def read (source : String) : Except SourceError Node :=
  match tokens source with
  | .error e => .error (.lexical e)
  | .ok words =>
    match parse words with
    | .error f => .error (.grammar f)
    | .ok unit => .ok unit

/-! A source is read by its characters, and the characters of a literal are at hand, while decoding
its bytes takes long to evaluate. -/

def readChars (cs : List Char) : Except SourceError Node :=
  match unescape cs >>= fun data => tokensFrom data (data.length + 1) ⟨data, 0, 1, 0, 0⟩ [] with
  | .error e => .error (.lexical e)
  | .ok words =>
    match parse words with
    | .error f => .error (.grammar f)
    | .ok unit => .ok unit

theorem read_of_toList {s : String} {cs : List Char} (h : s.toList = cs) : read s = readChars cs := by
  rw [← h]
  rfl

end DroidAudit.Java

theorem DroidAudit.Text.toList_append_of {s t : String} {cs ds : List Char} (hs : s.toList = cs)
    (ht : t.toList = ds) : (s ++ t).toList = cs ++ ds := by
  rw [String.toList_append, hs, ht]
