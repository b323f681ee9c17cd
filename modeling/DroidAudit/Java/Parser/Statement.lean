import DroidAudit.Java.Parser.Expression

/-! Variables and statements. -/
namespace DroidAudit.Java.Grammar
open DroidAudit.Java.Parser

variable {P : Type}

def declaratorRest (r : Rules P) (varName : String) : Parser P (Node P) := nested do
  dimensions
  if ← passesText "=" then
    let value : Node P ← r .initializer
    return .mk (.variableDeclarator varName) none [(.other, value)]
  return .mk (.variableDeclarator varName) none []

def declarator (r : Rules P) : Parser P (Node P) := nested do
  let varName ← name
  declaratorRest r varName

def moreDeclarators (item : Parser P (Node P)) : Parser P (List (Node P)) :=
  collect do
    if ← passesText "," then return some (← item)
    return none

def declarationParts (notes : List (Node P)) (declared : Node P) (declarators : List (Node P)) :
    List (Part × Node P) :=
  others notes ++ (.type, declared) :: asPart .declarator declarators

/-- Variables of a block; the caller knows their place. -/
def localVariables (r : Rules P) (place : Option P) : Parser P (Node P) := nested do
  let notes ← variableModifiers r
  let declared ← type r
  let declarators ← nested (separated "," (declarator r))
  word ";"
  return .mk .localVariableDeclaration place (declarationParts notes declared declarators)

def catchClause (r : Rules P) : Parser P (Node P) := nestedBy 2 do
  word "catch"
  word "("
  let _ ← variableModifiers r
  let _ ← separated "|" dottedName
  let varName ← name
  word ")"
  let body ← block r
  return .mk .catchClause none
    ((.other, .mk (.catchParameter varName) none []) :: others body)

def tryResource (r : Rules P) : Parser P (Node P) := nested do
  let notes ← variableModifiers r
  let declared : Node P ← r (.referenceType false)
  dimensions
  let varName ← name
  dimensions
  word "="
  let value : Node P ← r .expression
  return .mk (.tryResource varName) none
    (others notes ++ [(.type, declared), (.other, value)])

def resources (r : Rules P) : Parser P (List (Node P)) := nested do
  word "("
  let first ← tryResource r
  let separator : Parser P Bool := do
    if !(← seesText ")") then word ";"
    return !(← passesText ")")
  let rest ← collect do
    if ← separator then return some (← tryResource r)
    return none
  return first :: rest

def tryRest (r : Rules P) : Parser P (List (Part × Node P)) := do
  let plain ← seesText openBrace
  let opened ← if plain then pure [] else resources r
  let body ← block r
  let catches ← whileText "catch" (catchClause r)
  let hasFinally ← passesText "finally"
  let final ← if hasFinally then block r else pure []
  if plain && catches.isEmpty && !hasFinally then misplaced
  else return others (opened ++ body ++ catches ++ final)

/-- One or more labels and the statements behind them. A label that is a lone name is no
expression. -/
def switchCase (r : Rules P) : Parser P (Node P) := nested do
  let label : Parser P (List (Node P)) := do
    let t ← next
    let value ←
      if t.text == "case" then
        if ← sees [.kind .identifier, .text ":"] then do
          let _ ← name
          pure []
        else do
          let value : Node P ← r .expression
          pure [value]
      else if t.text == "default" then pure []
      else misplaced
    word ":"
    return value
  let first ← label
  let rest ← collect do
    if ← seesOneOf ["case", "default"] then return some (← label)
    return none
  let statements ← collect do
    if ← seesOneOf ["case", "default", closeBrace] then return none
    let found : Node P ← r .blockStatement
    return some found
  return .mk .switchCase none (others (first ++ rest.flatten ++ statements))

def switchCases (r : Rules P) : Parser P (List (Node P)) :=
  nested <| collect do
    if ← seesOneOf ["case", "default"] then return some (← switchCase r)
    return none

def expressionList (r : Rules P) : Parser P (List (Node P)) := separated "," (r .expression)

def loopTail (r : Rules P) : Parser P (List (Node P)) := do
  word ";"
  let condition : List (Node P) ←
    if ← seesText ";" then pure []
    else do
      let condition : Node P ← r .expression
      pure [condition]
  word ";"
  let step ← if ← seesText ")" then pure [] else expressionList r
  return condition ++ step

def declaringControl (r : Rules P) : Parser P (Node P) := nested do
  let notes ← variableModifiers r
  let declared ← type r
  let varName ← name
  dimensions
  let declaration (declarators : List (Node P)) : Node P :=
    .mk .variableDeclaration none (declarationParts notes declared declarators)
  if ← passesText ":" then
    let source : Node P ← r .expression
    let plain : Node P := .mk (.variableDeclarator varName) none []
    return .mk .enhancedForControl none (others [declaration [plain], source])
  let declarators ←
    if ← seesText ";" then pure [Node.mk (.variableDeclarator varName) none []]
    else do
      let value : List (Node P) ←
        if ← passesText "=" then do
          let value : Node P ← r .initializer
          pure [value]
        else pure []
      let rest ← moreDeclarators (declarator r)
      pure (.mk (.variableDeclarator varName) none (others value) :: rest)
  return .mk .forControl none (others (declaration declarators :: (← loopTail r)))

def forControl (r : Rules P) : Parser P (Node P) := nested do
  if let some found ← attempt (declaringControl r) then return found
  let start ← if ← seesText ";" then pure [] else expressionList r
  return .mk .forControl none (others (start ++ (← loopTail r)))

/-- A statement that starts with the word `keyword`, which is already consumed. -/
def keywordStatement (r : Rules P) (keyword : String) : Parser P (Kind × List (Part × Node P)) := do
  match keyword with
  | "if" =>
    let condition ← parenthesized r
    let yes : Node P ← r .statement
    let no : List (Node P) ←
      if ← passesText "else" then do
        let no : Node P ← r .statement
        pure [no]
      else pure []
    return (.ifStatement, others (condition :: yes :: no))
  | "assert" =>
    let condition : Node P ← r .expression
    let value : List (Node P) ←
      if ← passesText ":" then do
        let value : Node P ← r .expression
        pure [value]
      else pure []
    word ";"
    return (.assertStatement, others (condition :: value))
  | "switch" =>
    let subject ← parenthesized r
    word openBrace
    let cases ← switchCases r
    word closeBrace
    return (.switchStatement, others (subject :: cases))
  | "while" =>
    let condition ← parenthesized r
    let body : Node P ← r .statement
    return (.whileStatement, [(.other, condition), (.body, body)])
  | "do" =>
    let body : Node P ← r .statement
    word "while"
    let condition ← parenthesized r
    word ";"
    return (.doStatement, [(.other, condition), (.body, body)])
  | "for" =>
    word "("
    let control ← forControl r
    word ")"
    let body : Node P ← r .statement
    return (.forStatement, [(.other, control), (.body, body)])
  | "break" =>
    let _ ← passes [.kind .identifier]
    word ";"
    return (.breakStatement, [])
  | "continue" =>
    let _ ← passes [.kind .identifier]
    word ";"
    return (.continueStatement, [])
  | "return" =>
    let value : List (Node P) ←
      if ← seesText ";" then pure []
      else do
        let value : Node P ← r .expression
        pure [value]
    word ";"
    return (.returnStatement, others value)
  | "throw" =>
    let value : Node P ← r .expression
    word ";"
    return (.throwStatement, [(.other, value)])
  | "synchronized" =>
    let lock ← parenthesized r
    let body ← block r
    return (.synchronizedStatement, others (lock :: body))
  | "try" => return (.tryStatement, ← tryRest r)
  | _ => misplaced

def statementKeywords : List String :=
  ["if", "assert", "switch", "while", "do", "for", "break", "continue", "return", "throw",
   "synchronized", "try"]

def statement (r : Rules P) : Parser P (Node P) := nested do
  let place ← position
  if ← seesText openBrace then
    return .mk .blockStatement place (others (← block r))
  if ← passesText ";" then return .mk .emptyStatement place []
  if ← passes [.kind .identifier, .text ":"] then return ← r .statement
  if ← seesOneOf statementKeywords then
    let t ← next
    let (kind, children) ← keywordStatement r t.text
    return .mk kind place children
  let value : Node P ← r .expression
  word ";"
  return .mk .statementExpression place [(.other, value)]

/-- The words behind the parenthesis that closes one already open. -/
def closing : Nat → List (Token P) → Option (List (Token P))
  | _, [] => none
  | depth, t :: ts =>
    if t.text == "(" then closing (depth + 1) ts
    else if t.text == ")" then
      match depth with
      | 0 => some ts
      | d + 1 => closing d ts
    else closing depth ts

def skipDots : List (Token P) → List (Token P)
  | dot :: part :: rest => if dot.text == "." then skipDots rest else dot :: part :: rest
  | ts => ts

inductive Opening (P : Type)
  | declaration
  | decided (next : Option (Token P)) (annotated : Bool)
  | endless

/-- Looks past modifiers and annotations. Only `final` may stand in front of a variable. Behind an
annotation without parentheses one word more is passed over. -/
def opening : Nat → Bool → List (Token P) → Opening P
  | 0, _, _ => .endless
  | fuel + 1, annotated, ts =>
    match ts with
    | [] => .decided none annotated
    | t :: rest =>
      if t.kind == .modifier then
        if t.text == "final" then opening fuel annotated rest else .declaration
      else if fits [.kind .note] ts && !fits [.kind .note, .text "interface"] ts then
        let behind := skipDots (ts.drop 2)
        match behind with
        | [] => .decided none true
        | b :: more =>
          if b.text == "(" then
            match closing 0 more with
            | none => .endless
            | some closed => opening fuel true closed
          else opening fuel true more
      else .decided (some t) annotated

/-- A statement inside a block: a declaration of a type, of variables, or something to do. A
declaration of variables is placed where the look past modifiers and annotations ends. -/
def blockStatement (r : Rules P) : Parser P (Node P) := nested do
  if ← sees [.kind .identifier, .text ":"] then return ← r .statement
  if ← seesText "synchronized" then return ← r .statement
  let words ← rest
  match opening (← bound) false words with
  | .declaration => r .typeDeclaration
  | .endless => fail .endless
  | .decided t annotated =>
    let place := t.map (·.position)
    if t.any (fun t => ["class", "enum", "interface", "@"].contains t.text) then
      r .typeDeclaration
    else if annotated || t.any (·.kind == .basicType) then localVariables r place
    else if !t.any (·.kind == .identifier) then r .statement
    else
      match ← attempt (localVariables r place) with
      | some found => return found
      | none => r .statement

end DroidAudit.Java.Grammar
