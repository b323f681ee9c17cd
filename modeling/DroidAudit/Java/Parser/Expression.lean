import DroidAudit.Java.Parser.Type

/-! Expressions. -/
namespace DroidAudit.Java.Grammar
open DroidAudit.Java.Parser

variable {P : Type}

def parenthesized (r : Rules P) : Parser P (Node P) := nested do
  word "("
  let inner : Node P ← r .expression
  word ")"
  return inner

def arguments (r : Rules P) : Parser P (List (Node P)) := nested do
  word "("
  if ← passesText ")" then return []
  let found ← separated "," (r .expression)
  word ")"
  return found

def arrayInitializer (r : Rules P) : Parser P (Node P) := nested do
  word openBrace
  if ← passesText "," then
    word closeBrace
    return .mk .arrayInitializer none []
  let items ← collect do
    if ← passesText closeBrace then return none
    let item : Node P ← r .initializer
    if !(← seesText closeBrace) then word ","
    return some item
  return .mk .arrayInitializer none (others items)

def initializer (r : Rules P) : Parser P (Node P) := nested do
  if ← seesText openBrace then arrayInitializer r else r .expression

def block (r : Rules P) : Parser P (List (Node P)) := nested do
  word openBrace
  let statements ← untilText closeBrace (r .blockStatement)
  word closeBrace
  return statements

def classBody (r : Rules P) : Parser P (List (Node P)) := nested do
  word openBrace
  let members ← untilText closeBrace (r .classMember)
  word closeBrace
  return members.flatten

def formalParameter (r : Rules P) : Parser P (Bool × Node P) := do
  let notes ← variableModifiers r
  let place ← position
  let parameterType ← type r
  let variadic ← passesText "..."
  let parameter ← name
  dimensions
  return (variadic,
    .mk (.formalParameter parameter) place (others notes ++ [(.type, parameterType)]))

def parametersUpTo (r : Rules P) : Nat → Parser P (List (Node P))
  | 0 => misplaced
  | n + 1 => do
    let (variadic, parameter) ← formalParameter r
    if variadic then return [parameter]
    if ← passesText "," then return parameter :: (← parametersUpTo r n)
    return [parameter]

/-- Parameters in parentheses; nothing may follow one that stands for many. -/
def formalParameters (r : Rules P) : Parser P (List (Node P)) := nested do
  word "("
  if ← passesText ")" then return []
  let parameters ← parametersUpTo r (← bound)
  word ")"
  return parameters

def lambdaBody (r : Rules P) : Parser P (List (Node P)) := nested do
  word "->"
  if ← seesText openBrace then return ← block r
  let body : Node P ← r .expression
  return [body]

def lambdaNode (parameters body : List (Node P)) : Node P :=
  .mk .lambda none (others parameters ++ asPart .body body)

/-- Names in parentheses. A comma may follow each of them. -/
def bareParameters : Parser P (List (Node P)) := do
  word "("
  let names ← untilText ")" do
    let parameter ← name
    let _ ← passesText ","
    return parameter
  word ")"
  return names.map fun n => .mk (.inferredParameter n) none []

def lambda (r : Rules P) : Parser P (Node P) := nested do
  let parameters ←
    if ← sees [.text "(", .kind .identifier, .text ","] then bareParameters
    else formalParameters r
  return lambdaNode parameters (← lambdaBody r)

def cast (r : Rules P) : Parser P (Node P) := do
  word "("
  let target ← type r
  word ")"
  let inner : Node P ← r .operand
  return .mk .cast none [(.type, target), (.other, inner)]

def superSuffix (r : Rules P) : Parser P (Node P) := nested do
  if ← passesText "." then
    let types ← if ← seesText "<" then plainTypeArguments r else pure []
    let member ← name
    if ← seesText "(" then
      let found ← arguments r
      return .mk (.superMethodInvocation member) none (others types ++ asPart .argument found)
    return .mk (.superMemberReference member) none []
  return .mk .superConstructorInvocation none (asPart .argument (← arguments r))

/-- Type arguments in front of a call take the place of those behind it; a member has none. -/
def withTypes (types : List (Node P)) : Node P → Node P
  | .mk (.superMemberReference member) p cs => .mk (.superMemberReference member) p cs
  | .mk kind p cs => .mk kind p (others types ++ cs.filter (·.1 == .argument))

def genericCall (r : Rules P) (types : List (Node P)) : Parser P (Node P) := nested do
  if ← passesText "super" then
    return withTypes types (← superSuffix r)
  let member ← name
  let found ← arguments r
  return .mk (.methodInvocation none member) none (others types ++ asPart .argument found)

def arrayCreatorRest (r : Rules P) (element : Node P) : Parser P (Node P) := nested do
  if ← sees [.text "[", .text "]"] then
    dimensions
    let values ← arrayInitializer r
    return .mk .arrayCreator none [(.type, element), (.other, values)]
  let sizes ← collect do
    if ← sees [.text "[", .text "]"] then return none
    if ← passesText "[" then
      let size : Node P ← r .expression
      word "]"
      return some size
    return none
  dimensions
  return .mk .arrayCreator none ((.type, element) :: others sizes)

def creatorRest (r : Rules P) : Parser P (List (Part × Node P)) := nested do
  let found ← arguments r
  let body ← if ← seesText openBrace then classBody r else pure []
  return asPart .argument found ++ asPart .body body

def creator (r : Rules P) : Parser P (Node P) := nested do
  if ← sees [.kind .basicType] then
    arrayCreatorRest r (← basicType)
  else
    let types ← if ← seesText "<" then plainTypeArguments r else pure []
    let created : Node P ← r (.referenceType true)
    if ← seesText "[" then
      if types.isEmpty then arrayCreatorRest r created else misplaced
    else
      return .mk .classCreator none ((.type, created) :: others types ++ (← creatorRest r))

def innerCreator (r : Rules P) : Parser P (Node P) := nested do
  let types ← if ← seesText "<" then plainTypeArguments r else pure []
  let created ← name
  let inner ← if ← seesText "<" then orDiamond (plainTypeArguments r) else pure []
  let createdType : Node P := .mk (.referenceType created) none (others inner)
  return .mk .innerClassCreator none ((.type, createdType) :: others types ++ (← creatorRest r))

/-- What follows a dotted name. The names are put in by the caller. -/
def nameSuffix (r : Rules P) : Parser P (Node P) := nested do
  if ← passes [.text "[", .text "]"] then
    dimensions
    word "."
    word "class"
    return .mk .classReference none []
  if ← seesText "(" then
    return .mk (.methodInvocation none "") none (asPart .argument (← arguments r))
  if ← passes [.text ".", .text "class"] then return .mk .classReference none []
  if ← passes [.text ".", .text "this"] then return .mk .this none []
  if ← sees [.text ".", .text "<"] then
    word "."
    let types ← plainTypeArguments r
    return ← genericCall r types
  if ← passes [.text ".", .text "new"] then return ← innerCreator r
  if ← sees [.text ".", .text "super", .text "("] then
    word "."
    word "super"
    return .mk .superConstructorInvocation none (asPart .argument (← arguments r))
  return .mk (.memberReference none "") none []

/-- The last of the dotted names is the member, the others qualify it. A call with type arguments
takes it too, in place of the name written behind those. -/
def applyNames (names : List String) (suffix : Node P) : Node P :=
  let last := names.getLast?.getD ""
  let qualifier := String.intercalate "." names.dropLast
  match suffix with
  | .mk (.memberReference _ _) p cs => .mk (.memberReference (some qualifier) last) p cs
  | .mk (.methodInvocation _ _) p cs => .mk (.methodInvocation (some qualifier) last) p cs
  | .mk .classReference p _ =>
    .mk .classReference p [(.type, .mk (.referenceType last) none [])]
  | other => other

def nameExpression (r : Rules P) (place : P) : Parser P (Node P) := do
  let first ← name
  let rest ← collect do
    if ← sees [.text ".", .kind .identifier] then
      word "."
      return some (← name)
    return none
  let suffix ← nameSuffix r
  return (applyNames (first :: rest) suffix).withPosition place

def primary (r : Rules P) : Parser P (Node P) := nested do
  match ← look with
  | none => misplaced
  | some t =>
    if t.kind == .literal then
      let _ ← next
      return .mk (.literal t.text) (some t.position) []
    if t.text == "(" then return ← parenthesized r
    if ← passesText "this" then
      if ← seesText "(" then
        return .mk .constructorInvocation none (asPart .argument (← arguments r))
      return .mk .this none []
    if ← sees [.text "super", .text "::"] then
      word "super"
      return .mk .superWord none []
    if ← passesText "super" then return ← superSuffix r
    if ← passesText "new" then return ← creator r
    if t.text == "<" then
      let types ← plainTypeArguments r
      if ← passesText "this" then
        return .mk .constructorInvocation none
          (others types ++ asPart .argument (← arguments r))
      return (← genericCall r types).withPosition t.position
    if t.kind == .identifier then return ← nameExpression r t.position
    if t.kind == .basicType then
      let named ← basicType
      dimensions
      word "."
      word "class"
      return .mk .classReference none [(.type, named)]
    if ← passesText "void" then
      word "."
      word "class"
      return .mk .classReference none []
    misplaced

def selector (r : Rules P) : Parser P (Node P) := nested do
  if ← passesText "[" then
    let index : Node P ← r .expression
    word "]"
    return .mk .arraySelector none [(.other, index)]
  if ← passesText "." then
    if ← sees [.kind .identifier] then
      let member ← name
      if ← seesText "(" then
        return .mk (.methodInvocation none member) none (asPart .argument (← arguments r))
      return .mk (.memberReference none member) none []
    if ← sees [.text "super", .text "::"] then
      word "super"
      return .mk .superWord none []
    if ← seesText "<" then
      let types ← plainTypeArguments r
      return ← genericCall r types
    if ← passesText "this" then return .mk .this none []
    if ← passesText "super" then return ← superSuffix r
    if ← passesText "new" then return ← innerCreator r
    misplaced
  misplaced

/-- Selectors behind a primary. Every one of them is placed at the sign in front of it. -/
def selectors (r : Rules P) : Parser P (List (Node P)) :=
  collect do
    match ← look with
    | none => fail .endsInExpression
    | some t =>
      if t.text == "[" || t.text == "." then
        return some ((← selector r).withPosition t.position)
      return none

def skipOperators (set : List String) : Parser P Unit := do
  let _ ← collect do
    if ← seesOneOf set then
      let _ ← next
      return some ()
    return none

/-- An expression without infix operators. A parenthesis is tried as a lambda expression, then as
a cast. -/
def operand (r : Rules P) : Parser P (Node P) := nested do
  skipOperators leadingOperators
  if ← seesText "(" then
    if let some found ← attempt (lambda r) then return found
    if let some found ← attempt (cast r) then return found
  let first ← primary r
  let found ← selectors r
  skipOperators trailingOperators
  return first.withSelectors found

def precedence : List (List String) :=
  [["||"], ["&&"], ["|"], ["^"], ["&"], ["==", "!="], ["<", ">", ">=", "<=", "instanceof"],
   ["<<", ">>", ">>>"], ["+", "-"], ["*", "/", "%"]]

def cutAtLevel (level : List String) :
    Node P → List (String × Node P) → List (String × Node P) →
      (Node P × List (String × Node P)) × List (String × Node P × List (String × Node P))
  | first, done, [] => ((first, done.reverse), [])
  | first, done, (op, n) :: rest =>
    if level.contains op then
      let (head, more) := cutAtLevel level n [] rest
      ((first, done.reverse), (op, head) :: more)
    else cutAtLevel level first ((op, n) :: done) rest

def operation : List (List String) → Node P → List (String × Node P) → Node P
  | [], first, _ => first
  | level :: tighter, first, rest =>
    let (head, more) := cutAtLevel level first [] rest
    more.foldl
      (fun left (op, n, inner) =>
        .mk (.binaryOperation op) none [(.other, left), (.other, operation tighter n inner)])
      (operation tighter head.1 head.2)

def infixOperator : Parser P String := do
  let op ← expect (.kind .operator)
  if !infixOperators.contains op then misplaced
  else if op == ">" then
    if ← passesText ">" then
      if ← passesText ">" then return ">>>"
      return ">>"
    return op
  else return op

def operationRest (r : Rules P) : Parser P (List (String × Node P)) :=
  nested <| collect do
    if ← passesText "instanceof" then return some ("instanceof", ← type r)
    if ← seesOneOf infixOperators then
      let op ← infixOperator
      let right : Node P ← r .operand
      return some (op, right)
    return none

def methodReference (r : Rules P) (left : Node P) : Parser P (Node P) := nested do
  let types ← if ← seesText "<" then plainTypeArguments r else pure []
  let method : Node P ←
    if ← passesText "new" then pure (.mk (.memberReference none "new") none [])
    else r .expression
  return .mk .methodReference none ((.other, left) :: (.other, method) :: others types)

def infixOperation (r : Rules P) : Parser P (Node P) := nested do
  let first : Node P ← r .operand
  return operation precedence first (← operationRest r)

def conditional (r : Rules P) : Parser P (Node P) := nested do
  let left ← infixOperation r
  if ← passesText "?" then
    let yes : Node P ← r .expression
    word ":"
    let no : Node P ← r .conditional
    return .mk .ternary none (others [left, yes, no])
  if ← seesText "->" then return lambdaNode [left] (← lambdaBody r)
  if ← passesText "::" then return ← methodReference r left
  return left

def expression (r : Rules P) : Parser P (Node P) := nested do
  let left : Node P ← r .conditional
  if ← seesOneOf assignmentOperators then
    let _ ← next
    let value : Node P ← r .expression
    return .mk .assignment none (others [left, value])
  return left

end DroidAudit.Java.Grammar
