import DroidAudit.Text.Integer
import DroidAudit.Xml.Basic

/-! Queries for elements: steps to children, descendants and parents, and conditions in brackets. -/
namespace DroidAudit.Xml
namespace Query

inductive Token
  | sign (s : String)
  | quoted (s : String)
  | tag (s : String)
  /-- A tag with a label, which stands for no namespace here. -/
  | labelled (s : String)
  | blank
  deriving Repr, DecidableEq

inductive Error
  | malformed
  /-- A word that starts no step. -/
  | noStep (word : String)
  /-- The query ends within its last step. -/
  | unfinished
  | number (e : Text.IntegerError)
  deriving Repr, DecidableEq

/-! Words. -/

def isTagChar (c : Char) : Bool := !("/[]()@!=".toList.contains c || Text.isBlank c)

/-- What stands in front of the next `mark`, and what follows it. -/
def cutAt? (mark : Char) (cs : List Char) : Option (List Char × List Char) :=
  match cs.span (· != mark) with
  | (inside, _ :: rest) => some (inside, rest)
  | (_, []) => none

/-- The tag in front of the rest. A namespace in braces may hold any signs if a name follows it. -/
def tagAt (cs : List Char) : List Char × List Char :=
  let space :=
    match cs with
    | '\x7b' :: rest => cutAt? '\x7d' rest
    | _ => none
  match space with
  | some (space, rest) =>
    let (part, after) := rest.span isTagChar
    if space.isEmpty || part.isEmpty then cs.span isTagChar
    else ('\x7b' :: space ++ '\x7d' :: part, after)
  | none => cs.span isTagChar

def tagToken (cs : List Char) : Token :=
  let s := String.ofList cs
  if cs.head? != some '\x7b' && cs.contains ':' then .labelled s else .tag s

/-- The word in front of the rest; a sign that starts none is passed over. -/
def tokenAt (c : Char) (cs : List Char) : Option Token × List Char :=
  let quoted := if c == '\'' || c == '"' then cutAt? c cs else none
  match quoted with
  | some (inside, rest) => (some (.quoted (String.ofList inside)), rest)
  | none =>
    match c, cs with
    | ':', ':' :: rest => (some (.sign "::"), rest)
    | '/', '/' :: rest => (some (.sign "//"), rest)
    | '.', '.' :: rest => (some (.sign ".."), rest)
    | '(', ')' :: rest => (some (.sign "()"), rest)
    | '!', '=' :: rest => (some (.sign "!="), rest)
    | _, _ =>
      if "/.*:[]()@=".toList.contains c then (some (.sign c.toString), cs)
      else if Text.isBlank c then (some .blank, cs.dropWhile Text.isBlank)
      else if c == '!' then (none, cs)
      else
        let (tag, rest) := tagAt (c :: cs)
        (some (tagToken tag), rest)

/-- The words of the next `n` characters at most. -/
def tokensFrom : Nat → List Char → List Token
  | 0, _ => []
  | _, [] => []
  | n + 1, c :: cs =>
    let (token, rest) := tokenAt c cs
    token.toList ++ tokensFrom n rest

def tokens (query : String) : List Token := tokensFrom query.length query.toList

/-! Steps. -/

inductive Pattern
  | any
  | tag (s : String)
  deriving Repr, DecidableEq

/-- A condition on an element. Comparisons hold where they turn out as `equal` says. -/
inductive Condition
  | hasAttribute (key : String)
  | comparesAttribute (equal : Bool) (key value : String)
  | hasChild (tag : String)
  | comparesText (equal : Bool) (value : String)
  | comparesChild (equal : Bool) (tag value : String)
  /-- The place among the children of the same tag, from the end if it is negative. -/
  | position (i : Int)
  deriving Repr, DecidableEq

inductive Step
  | stay
  | parents
  | children (p : Pattern)
  | descendants (p : Pattern)
  | filter (c : Condition)
  deriving Repr, DecidableEq

def isNumber (tag : String) : Bool :=
  let digits :=
    match tag.toList with
    | '-' :: rest => rest
    | cs => cs
  !digits.isEmpty && digits.all fun c => (Text.decimalValue? c).isSome

def positionOf (number : String) : Except Error Condition :=
  match Text.readInteger number with
  | .error e => .error (.number e)
  | .ok i => if i < 1 then .error .malformed else .ok (.position (i - 1))

def positionFromLast (number : String) : Except Error Condition :=
  match Text.readInteger number with
  | .error _ => .error .malformed
  | .ok i => if i < 0 then .ok (.position (i - 1)) else .error .malformed

def comparison? : String → Option Bool
  | "=" => some true
  | "!=" => some false
  | _ => none

def conditionOf : List Token → Except Error Condition
  | [.sign "@", .tag key] => .ok (.hasAttribute key)
  | [.sign "@", .tag key, .sign sign, .quoted value] =>
    match comparison? sign with
    | some equal => .ok (.comparesAttribute equal key value)
    | none => .error .malformed
  | [.sign ".", .sign sign, .quoted value] =>
    match comparison? sign with
    | some equal => .ok (.comparesText equal value)
    | none => .error .malformed
  | [.tag tag, .sign sign, .quoted value] =>
    match comparison? sign with
    | some equal =>
      if isNumber tag then .error .malformed else .ok (.comparesChild equal tag value)
    | none => .error .malformed
  | [.tag tag] => if isNumber tag then positionOf tag else .ok (.hasChild tag)
  | [.tag "last", .sign "()"] => .ok (.position (-1))
  | [.tag "last", .sign "(", .sign ")"] => .ok (.position (-1))
  | [.tag "last", .sign "()", .tag number] => positionFromLast number
  | _ => .error .malformed

/-- The words up to a closing bracket, without blanks, and those behind it. -/
def conditionTokens : List Token → Except Error (List Token × List Token)
  | [] => .error .unfinished
  | .sign "]" :: rest => .ok ([], rest)
  | .blank :: rest => conditionTokens rest
  | .labelled _ :: _ => .error .malformed
  | t :: rest => do
    let (inside, rest) ← conditionTokens rest
    return (t :: inside, rest)

def stepAt : Token → List Token → Except Error (Step × List Token)
  | .sign ".", rest => .ok (.stay, rest)
  | .sign "..", rest => .ok (.parents, rest)
  | .sign "*", rest => .ok (.children .any, rest)
  | .tag tag, rest => .ok (.children (.tag tag), rest)
  | .blank, rest => .ok (.children (.tag ""), rest)
  | .sign "//", [] => .error .unfinished
  | .sign "//", .sign "*" :: rest => .ok (.descendants .any, rest)
  | .sign "//", .tag tag :: rest => .ok (.descendants (.tag tag), rest)
  | .sign "//", .blank :: rest => .ok (.descendants (.tag ""), rest)
  | .sign "//", _ => .error .malformed
  | .sign "[", rest => do
    let (inside, rest) ← conditionTokens rest
    return (.filter (← conditionOf inside), rest)
  | .labelled _, _ => .error .malformed
  | .sign s, _ => .error (.noStep s)
  | .quoted s, _ => .error (.noStep s)

/-- The words without the slash in front of the next step. -/
def pastSlash : List Token → List Token
  | .sign "/" :: rest => rest
  | rest => rest

/-- At most `n` steps. -/
def stepsFrom : Nat → List Token → Except Error (List Step)
  | 0, _ => .ok []
  | _, [] => .ok []
  | n + 1, t :: rest => do
    let (step, rest) ← stepAt t rest
    return step :: (← stepsFrom n (pastSlash rest))

def steps (query : String) : Except Error (List Step) :=
  let words := tokens query
  stepsFrom words.length words

/-! Following the steps. -/

def fullName (n : Name) : String :=
  if n.space.isEmpty then n.part else "\x7b" ++ n.space ++ "\x7d" ++ n.part

/-- Whether a step takes elements of a name. A star stands for any namespace or any part, and
empty braces for no namespace. -/
def Pattern.takes (name : Name) : Pattern → Bool
  | .any => true
  | .tag "\x7b*\x7d*" => true
  | .tag "\x7b\x7d*" => name.space.isEmpty
  | .tag given =>
    let full := (fullName name).toList
    match given.toList with
    | '\x7b' :: '*' :: '\x7d' :: part => full == part || ('\x7d' :: part).isSuffixOf full
    | cs =>
      if ['\x7d', '*'].isSuffixOf cs then cs.dropLast.isPrefixOf full
      else
        match cs with
        | '\x7b' :: '\x7d' :: part => full == part
        | _ => full == cs

/-- A place in a document: the numbers of the children on the way from the root. -/
abbrev Place := List Nat

abbrev Found := Place × Element

def childrenOf (f : Found) : List Found :=
  f.2.children.zipIdx.map fun ((child, _), i) => (f.1 ++ [i], child)

mutual
def below (place : Place) : Element → List Found
  | .mk _ _ _ children => belowFrom place 0 children

def belowFrom (place : Place) (i : Nat) : List (Element × String) → List Found
  | [] => []
  | (e, _) :: rest =>
    (place ++ [i], e) :: below (place ++ [i]) e ++ belowFrom place (i + 1) rest
end

mutual
def innerText : Element → String
  | .mk _ _ text children => text.getD "" ++ innerTextOf children

def innerTextOf : List (Element × String) → String
  | [] => ""
  | (e, tail) :: rest => innerText e ++ tail ++ innerTextOf rest
end

def elementAt? : Place → Element → Option Element
  | [], e => some e
  | i :: place, e => (e.children[i]?).bind fun (child, _) => elementAt? place child

def parent? (root : Element) (place : Place) : Option Found :=
  if place.isEmpty then none
  else (elementAt? place.dropLast root).map fun e => (place.dropLast, e)

def attributeOf? (e : Element) (key : String) : Option String :=
  (e.attributes.find? fun a => fullName a.name == key).map (·.value)

def childrenTaken (tag : String) (f : Found) : List Found :=
  (childrenOf f).filter fun c => Pattern.takes c.2.name (.tag tag)

/-- The member of a list at a number, which counts from the end if it is negative. -/
def atPosition? (fs : List Found) (i : Int) : Option Found :=
  if 0 ≤ i then fs[i.toNat]?
  else if (-i).toNat ≤ fs.length then fs[fs.length - (-i).toNat]?
  else none

def Condition.holds (root : Element) (f : Found) : Condition → Bool
  | .hasAttribute key => (attributeOf? f.2 key).isSome
  | .comparesAttribute equal key value =>
    (attributeOf? f.2 key).any fun v => (v == value) == equal
  | .hasChild tag => !(childrenTaken tag f).isEmpty
  | .comparesText equal value => (innerText f.2 == value) == equal
  | .comparesChild equal tag value =>
    (childrenTaken tag f).any fun c => (innerText c.2 == value) == equal
  | .position i =>
    match parent? root f.1 with
    | none => false
    | some parent =>
      (atPosition? (childrenTaken (fullName f.2.name) parent) i).any fun g => g.1 == f.1

def parentsOf (root : Element) (fs : List Found) : List Found :=
  fs.foldl
    (fun parents f =>
      match parent? root f.1 with
      | none => parents
      | some p => if parents.any fun q => q.1 == p.1 then parents else parents ++ [p])
    []

def Step.follow (root : Element) (fs : List Found) : Step → List Found
  | .stay => fs
  | .parents => parentsOf root fs
  | .children p => fs.flatMap fun f => (childrenOf f).filter fun c => p.takes c.2.name
  | .descendants p => fs.flatMap fun f => (below f.1 f.2).filter fun c => p.takes c.2.name
  | .filter c => fs.filter fun f => c.holds root f

end Query

def find? (root : Element) (query : String) : Except Query.Error (Option Query.Place) := do
  let found := (← Query.steps query).foldl (Query.Step.follow root) [([], root)]
  return found.head?.map (·.1)

end DroidAudit.Xml
