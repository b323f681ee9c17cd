import DroidAudit.Java.Parser.Statement

/-! Declarations of types and their members. -/
namespace DroidAudit.Java.Grammar
open DroidAudit.Java.Parser

variable {P : Type}

def throwsClause : Parser P Unit := do
  if ← passesText "throws" then
    let _ ← separated "," dottedName

def methodBody (r : Rules P) : Parser P (List (Node P)) := nested do
  if ← seesText openBrace then return ← block r
  word ";"
  return []

def methodRest (r : Rules P) (method : String) (types returned : List (Node P)) :
    Parser P (Kind × List (Part × Node P)) := nested do
  let parameters ← formalParameters r
  dimensions
  throwsClause
  let body ← methodBody r
  return (.methodDeclaration method,
    others types ++ others returned ++ others parameters ++ asPart .body body)

/-- A method that returns nothing; no brackets may follow its parameters. -/
def voidMethodRest (r : Rules P) (method : String) (types : List (Node P)) :
    Parser P (Kind × List (Part × Node P)) := nested do
  let parameters ← formalParameters r
  throwsClause
  let body ← methodBody r
  return (.methodDeclaration method, others types ++ others parameters ++ asPart .body body)

def constructorRest (r : Rules P) (title : String) (types : List (Node P)) :
    Parser P (Kind × List (Part × Node P)) := nested do
  let parameters ← formalParameters r
  throwsClause
  let body ← block r
  return (.constructorDeclaration title,
    others types ++ others parameters ++ asPart .body body)

def fieldRest (r : Rules P) (declared : Node P) (field : String) :
    Parser P (Kind × List (Part × Node P)) := nested do
  let first ← declaratorRest r field
  let rest ← moreDeclarators (declarator r)
  word ";"
  return (.fieldDeclaration, (.type, declared) :: asPart .declarator (first :: rest))

def constantRest (r : Rules P) (constant : String) : Parser P (Node P) := nested do
  dimensions
  word "="
  let value : Node P ← r .initializer
  return .mk (.variableDeclarator constant) none [(.other, value)]

def constantsRest (r : Rules P) (declared : Node P) (constant : String) :
    Parser P (Kind × List (Part × Node P)) := nested do
  let first ← constantRest r constant
  let rest ← moreDeclarators do
    let constant ← name
    constantRest r constant
  return (.constantDeclaration, (.type, declared) :: asPart .declarator (first :: rest))

def classRest (r : Rules P) : Parser P (Kind × List (Part × Node P)) := nested do
  word "class"
  let title ← name
  let types ← if ← seesText "<" then typeParameters r else pure []
  let base : List (Node P) ←
    if ← passesText "extends" then do
      let base ← type r
      pure [base]
    else pure []
  let interfaces ← if ← passesText "implements" then typeList r else pure []
  let body ← classBody r
  return (.classDeclaration title,
    asPart .body body ++ others types ++ others base ++ others interfaces)

def enumConstant (r : Rules P) : Parser P (Node P) := nested do
  let notes ← if ← sees [.kind .note] then notes r else pure []
  let constant ← name
  let values ← if ← seesText "(" then arguments r else pure []
  let body ← if ← seesText openBrace then classBody r else pure []
  return .mk (.enumConstant constant) none
    (others notes ++ asPart .argument values ++ asPart .body body)

def enumConstants (r : Rules P) : Nat → Parser P (List (Node P))
  | 0 => misplaced
  | n + 1 => do
    if ← seesOneOf [";", closeBrace] then return []
    let constant ← enumConstant r
    if ← passesText "," then return constant :: (← enumConstants r n)
    return [constant]

def enumRest (r : Rules P) : Parser P (Kind × List (Part × Node P)) := nestedBy 2 do
  word "enum"
  let title ← name
  let interfaces ← if ← passesText "implements" then typeList r else pure []
  word openBrace
  let constants ←
    if ← passesText "," then pure [] else enumConstants r (← bound)
  let members ←
    if ← passesText ";" then untilText closeBrace (r .classMember) else pure []
  word closeBrace
  let body : Node P := .mk .enumBody none (others constants ++ others members.flatten)
  return (.enumDeclaration title, (.body, body) :: others interfaces)

def interfaceRest (r : Rules P) : Parser P (Kind × List (Part × Node P)) := nestedBy 2 do
  word "interface"
  let title ← name
  let types ← if ← seesText "<" then typeParameters r else pure []
  let bases ← if ← passesText "extends" then typeList r else pure []
  word openBrace
  let members ← untilText closeBrace (r .interfaceMember)
  word closeBrace
  return (.interfaceDeclaration title,
    asPart .body members.flatten ++ others types ++ others bases)

def annotationElementRest (r : Rules P) : Parser P (Kind × List (Part × Node P)) := nested do
  let declared ← type r
  let element ← name
  if ← passesText "(" then
    word ")"
    dimensions
    let value : List (Node P) ← if ← passesText "default" then r .elementValue else pure []
    word ";"
    return (.annotationMethod element, (.type, declared) :: others value)
  let found ← constantsRest r declared element
  word ";"
  return found

/-- The four kinds of type declarations, from their keyword on, if one stands here. The members of
an annotation type are read by `member`. -/
def typeRest? (r : Rules P) (member : Parser P (Node P)) :
    Parser P (Option (Kind × List (Part × Node P))) := do
  if ← seesText "class" then return some (← classRest r)
  if ← seesText "enum" then return some (← enumRest r)
  if ← seesText "interface" then return some (← interfaceRest r)
  if ← seesAnnotationDeclaration then
    word "@"
    word "interface"
    let title ← name
    word openBrace
    let members ← untilText closeBrace member
    word closeBrace
    return some (.annotationDeclaration title, asPart .body members)
  return none

/-- Puts a member together: its annotations come first, its place is the word behind them. -/
def memberNode (notes : List (Node P)) (place : Option P)
    (rest : Kind × List (Part × Node P)) : Node P :=
  .mk rest.1 place (others notes ++ rest.2)

/-- A member of an annotation type; `depth` bounds how deep such types are nested. -/
def annotationMember (r : Rules P) : Nat → Parser P (Node P)
  | 0 => misplaced
  | depth + 1 => nestedBy 2 do
    let notes ← modifiers r
    let place ← position
    match ← typeRest? r (annotationMember r depth) with
    | some rest => return memberNode notes place rest
    | none => return memberNode notes place (← annotationElementRest r)

def nestedType? (r : Rules P) : Parser P (Option (Kind × List (Part × Node P))) := do
  typeRest? r (annotationMember r (← bound))

def typeDeclaration (r : Rules P) : Parser P (Node P) := nested do
  let notes ← modifiers r
  let place ← position
  match ← nestedType? r with
  | some rest => return memberNode notes place rest
  | none => misplaced

def genericMember (r : Rules P) : Parser P (Kind × List (Part × Node P)) := nested do
  let types ← typeParameters r
  if ← sees [.kind .identifier, .text "("] then
    let title ← name
    return ← constructorRest r title types
  if ← passesText "void" then
    let method ← name
    return ← voidMethodRest r method types
  let returned ← type r
  let method ← name
  methodRest r method types [returned]

def memberRest (r : Rules P) : Parser P (Kind × List (Part × Node P)) := nested do
  if ← passesText "void" then
    let method ← name
    return ← voidMethodRest r method []
  if ← seesText "<" then return ← genericMember r
  if let some found ← nestedType? r then return found
  if ← sees [.kind .identifier, .text "("] then
    let title ← name
    return ← constructorRest r title []
  nestedBy 2 do
    let declared ← type r
    let member ← name
    if ← seesText "(" then methodRest r member [] [declared] else fieldRest r declared member

def classMember (r : Rules P) : Parser P (List (Node P)) := nested do
  if ← passesText ";" then return []
  if ← sees [.text "static", .text openBrace] then
    word "static"
    return ← block r
  if ← seesText openBrace then return ← block r
  let notes ← modifiers r
  let place ← position
  return [memberNode notes place (← memberRest r)]

def interfaceMemberRest (r : Rules P) : Parser P (Kind × List (Part × Node P)) := do
  if let some found ← nestedType? r then return found
  if ← seesText "<" then
    let types ← typeParameters r
    let returned : List (Node P) ←
      if ← passesText "void" then pure []
      else do
        let returned ← type r
        pure [returned]
    let method ← name
    return ← methodRest r method types returned
  if ← passesText "void" then
    let method ← name
    return ← voidMethodRest r method []
  let declared ← type r
  let member ← name
  if ← seesText "(" then return ← methodRest r member [] [declared]
  let found ← constantsRest r declared member
  word ";"
  return found

def interfaceMember (r : Rules P) : Parser P (List (Node P)) := nestedBy 2 do
  if ← passesText ";" then return []
  let notes ← modifiers r
  let place ← position
  return [memberNode notes place (← interfaceMemberRest r)]

end DroidAudit.Java.Grammar
