import DroidAudit.Java.Node
import DroidAudit.Java.Token

/-! Reading a sequence of words by rules. A rule consumes words from the front and gives a part of
the tree. Rules call each other through a `Rules` argument, so that each of them is an ordinary
definition; the recursion is closed once, with a bound on its depth. The rules do not look at places,
so these may be of any type. -/
namespace DroidAudit.Java

variable {P : Type}

/-- Why a sequence of words is no source file. Only a misplaced word makes a rule try its next
alternative. -/
inductive ParseFailure
  | misplaced
  /-- A word was demanded behind the last one. -/
  | exhausted
  /-- The words end right behind a primary expression. -/
  | endsInExpression
  /-- The parts of the file are nested too deep. -/
  | tooDeep
  /-- A look ahead for a closing parenthesis never ends. -/
  | endless
  deriving Repr, DecidableEq

/-- Where reading stands. `back` is the place to which the innermost open attempt goes back,
`bound` is how often a rule may be repeated: there are fewer words, and `room` is how many levels
rules may still be nested. -/
structure Reading (P : Type) where
  words : List (Token P)
  back : List (Token P)
  bound : Nat
  room : Nat

abbrev Parser (P α : Type) := ExceptT ParseFailure (StateM (Reading P)) α

inductive Expected
  | text (word : String)
  | kind (k : TokenKind)

def Expected.accepts : Expected → Token P → Bool
  | .text word, t => t.text == word
  | .kind k, t => t.kind == k

def openBrace : String := "\x7b"

def closeBrace : String := "\x7d"

namespace Parser

def fail {α : Type} (f : ParseFailure) : Parser P α := throw f

def misplaced {α : Type} : Parser P α := fail .misplaced

def nestedBy {α : Type} (levels : Nat) (p : Parser P α) : Parser P α := fun r =>
  if r.room < levels then (.error .tooDeep, r)
  else
    let (result, after) := p { r with room := r.room - levels }
    (result, { after with room := r.room })

def nested {α : Type} (p : Parser P α) : Parser P α := nestedBy 1 p

def rest : Parser P (List (Token P)) := do return (← get).words

def bound : Parser P Nat := do return (← get).bound

def goTo (words : List (Token P)) : Parser P Unit := modify fun r => { r with words }

def look : Parser P (Option (Token P)) := do return (← rest).head?

def position : Parser P (Option P) := do return (← look).map (·.position)

def fits : List Expected → List (Token P) → Bool
  | [], _ => true
  | _ :: _, [] => false
  | e :: es, t :: ts => e.accepts t && fits es ts

def sees (es : List Expected) : Parser P Bool := do return fits es (← rest)

def seesText (word : String) : Parser P Bool := sees [.text word]

/-- Whether the next word is one of `set`. -/
def seesOneOf (set : List String) : Parser P Bool := do
  return (← look).any fun t => set.contains t.text

def next : Parser P (Token P) := do
  match ← rest with
  | [] => fail .exhausted
  | t :: words =>
    goTo words
    return t

def expect (e : Expected) : Parser P String := do
  let t ← next
  if e.accepts t then return t.text else misplaced

def word (text : String) : Parser P Unit := do
  let _ ← expect (.text text)

def name : Parser P String := expect (.kind .identifier)

def passes (es : List Expected) : Parser P Bool := do
  let words ← rest
  if fits es words then
    goTo (words.drop es.length)
    return true
  return false

def passesText (word : String) : Parser P Bool := passes [.text word]

/-- Tries a rule and goes back if a word is misplaced. An attempt that succeeds inside another one
leaves the other with its own place: the other, if it fails later, goes back to there. -/
def attempt {α : Type} (p : Parser P α) : Parser P (Option α) := fun r =>
  match p { r with back := r.words } with
  | (.ok a, after) => (.ok (some a), after)
  | (.error .misplaced, after) => (.ok none, { r with words := after.back })
  | (.error f, after) => (.error f, after)

def collectUpTo {α : Type} (step : Parser P (Option α)) : Nat → Parser P (List α)
  | 0 => misplaced
  | n + 1 => do
    match ← step with
    | none => return []
    | some a => return a :: (← collectUpTo step n)

/-- Repeats a rule as long as it gives something. -/
def collect {α : Type} (step : Parser P (Option α)) : Parser P (List α) := do
  collectUpTo step (← bound)

def untilText {α : Type} (word : String) (item : Parser P α) : Parser P (List α) :=
  collect do
    if ← seesText word then return none
    return some (← item)

def whileText {α : Type} (word : String) (item : Parser P α) : Parser P (List α) :=
  collect do
    if ← seesText word then return some (← item)
    return none

def separated {α : Type} (word : String) (item : Parser P α) : Parser P (List α) := do
  let first ← item
  let rest ← collect do
    if ← passesText word then return some (← item)
    return none
  return first :: rest

def dottedName : Parser P String := do
  return String.intercalate "." (← separated "." name)

def dimensions : Parser P Unit := do
  let _ ← collect do
    if ← passes [.text "[", .text "]"] then return some ()
    return none

end Parser

/-- The parts of the grammar that contain each other. -/
inductive Goal
  | expression
  | conditional
  | operand
  | initializer
  | referenceType (diamond : Bool)
  | note
  | elementValue
  | statement
  | blockStatement
  | typeDeclaration
  | classMember
  | interfaceMember
  deriving Repr, DecidableEq

@[reducible]
def Goal.Result (P : Type) : Goal → Type
  | .elementValue | .classMember | .interfaceMember => List (Node P)
  | _ => Node P

abbrev Rules (P : Type) := (g : Goal) → Parser P (g.Result P)

def asPart (p : Part) (nodes : List (Node P)) : List (Part × Node P) := nodes.map fun n => (p, n)

def others (nodes : List (Node P)) : List (Part × Node P) := asPart .other nodes

end DroidAudit.Java
