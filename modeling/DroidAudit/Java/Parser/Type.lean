import DroidAudit.Java.Parser.Basic

/-! Types, type arguments and type parameters; modifiers and annotations. -/
namespace DroidAudit.Java.Grammar
open DroidAudit.Java.Parser

variable {P : Type}

def basicType : Parser P (Node P) := do
  return .mk (.basicType (← expect (.kind .basicType))) none []

def type (r : Rules P) : Parser P (Node P) := nested do
  let t ← look
  let node : Node P ←
    if t.any (·.kind == .basicType) then basicType
    else if t.any (·.kind == .identifier) then r (.referenceType false)
    else misplaced
  dimensions
  return node

def nonBasicType (r : Rules P) : Parser P (Node P) := do
  let node : Node P ←
    if ← sees [.kind .basicType] then do
      let node ← basicType
      word "["
      word "]"
      pure node
    else r (.referenceType false)
  dimensions
  return node

def typeList (r : Rules P) : Parser P (List (Node P)) := separated "," (nonBasicType r)

def typeArgument (r : Rules P) : Parser P (Node P) := nested do
  let bounded ← passesText "?"
  if bounded then
    if !(← seesOneOf ["extends", "super"]) then return .mk .typeArgument none []
    let _ ← next
  return .mk .typeArgument none [(.type, ← nonBasicType r)]

def typeArguments (r : Rules P) : Parser P (List (Node P)) := nested do
  word "<"
  let arguments ← separated "," (typeArgument r)
  word ">"
  return arguments

def plainTypeArguments (r : Rules P) : Parser P (List (Node P)) := nestedBy 2 do
  word "<"
  let types ← typeList r
  word ">"
  return types.map fun t => .mk .typeArgument none [(.type, t)]

def orDiamond (arguments : Parser P (List (Node P))) : Parser P (List (Node P)) := do
  if ← passes [.text "<", .text ">"] then return []
  arguments

def typeParameter (r : Rules P) : Parser P (Node P) := nested do
  let parameter ← name
  let bounds ←
    if ← passesText "extends" then do
      separated "&" (r (.referenceType false))
    else pure []
  return .mk (.typeParameter parameter) none (others bounds)

def typeParameters (r : Rules P) : Parser P (List (Node P)) := nested do
  word "<"
  let parameters ← separated "," (typeParameter r)
  word ">"
  return parameters

def typePart (r : Rules P) (diamond : Bool) : Parser P (String × List (Node P)) := do
  let part ← name
  let arguments ←
    if ← seesText "<" then
      if diamond then orDiamond (typeArguments r) else typeArguments r
    else pure []
  return (part, arguments)

/-- A dotted name whose parts may have type arguments; the rest hangs below the first part. -/
def referenceType (r : Rules P) (diamond : Bool) : Parser P (Node P) := nested do
  let parts ← separated "." (typePart r diamond)
  let below := parts.foldr
    (fun (part, arguments) (rest : List (Node P)) =>
      [.mk (.referenceType part) none (others arguments ++ others rest)])
    []
  match below with
  | [node] => return node
  | _ => misplaced

def seesAnnotationDeclaration : Parser P Bool :=
  sees [.kind .note, .text "interface"]

def seesNote : Parser P Bool := do
  if ← seesAnnotationDeclaration then return false
  sees [.kind .note]

def elementPair (r : Rules P) : Parser P (Node P) := nested do
  let element ← name
  word "="
  let value : List (Node P) ← r .elementValue
  return .mk (.elementPair element) none (others value)

def annotationElement (r : Rules P) : Parser P (List (Node P)) := nested do
  if ← sees [.kind .identifier, .text "="] then separated "," (elementPair r)
  else r .elementValue

def note (r : Rules P) : Parser P (Node P) := nested do
  word "@"
  let title ← dottedName
  let element ←
    if ← passesText "(" then do
      let element ← if ← seesText ")" then pure [] else annotationElement r
      word ")"
      pure element
    else pure []
  return .mk (.note title) none (others element)

def elementArray (r : Rules P) : Parser P (List (Node P)) := nestedBy 2 do
  word openBrace
  if ← passesText closeBrace then return []
  let first : List (Node P) ← r .elementValue
  let rest ← collect do
    if ← seesText closeBrace then return none
    if ← sees [.text ",", .text closeBrace] then return none
    word ","
    let value : List (Node P) ← r .elementValue
    return some value
  let _ ← passesText ","
  word closeBrace
  return [.mk .elementArray none (others (first ++ rest.flatten))]

def elementValue (r : Rules P) : Parser P (List (Node P)) := nested do
  if ← seesNote then
    let value : Node P ← r .note
    return [value]
  if ← seesText openBrace then return ← elementArray r
  let value : Node P ← r .conditional
  return [value]

/-- Modifiers and annotations in any order; the annotations are kept. -/
def modifiers (r : Rules P) : Parser P (List (Node P)) := nested do
  let found ← collect do
    if ← passes [.kind .modifier] then return some []
    if ← seesNote then
      let found : Node P ← r .note
      return some [found]
    return none
  return found.flatten

def variableModifiers (r : Rules P) : Parser P (List (Node P)) := nested do
  let found ← collect do
    if ← passesText "final" then return some []
    if ← seesNote then
      let found : Node P ← r .note
      return some [found]
    return none
  return found.flatten

def notes (r : Rules P) : Parser P (List (Node P)) := nested do
  let first : Node P ← r .note
  let rest ← collect do
    if ← seesNote then
      let found : Node P ← r .note
      return some found
    return none
  return first :: rest

end DroidAudit.Java.Grammar
