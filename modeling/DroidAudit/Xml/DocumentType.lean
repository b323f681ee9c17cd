import DroidAudit.Xml.Growth
import DroidAudit.Xml.Token

/-! The document type: declarations of entities, attributes, elements and notations at the front
of a document. -/
namespace DroidAudit.Xml

/-- The two ways to read a document: as a tree of elements, or as a document with nodes of all
kinds. They differ in a few rare things. -/
inductive Way
  | tree | document
  deriving Repr, DecidableEq

namespace Way

/-- No namespace may hold the sign that stands between it and a name. -/
def separator : Way → Char
  | tree => '\x7d'
  | document => ' '

/-- Whether an element has attributes that only the document type gives it. -/
def addsDefaults (w : Way) : Bool := w == tree

/-- Whether a reference to text that is kept elsewhere is passed over. -/
def passesOutside (w : Way) : Bool := w == document

/-- Whether an element may be declared once only. -/
def refusesRepeats (w : Way) : Bool := w == document

end Way

/-- What is declared of an attribute: whether its value is free text, and the value it has when
none is written. -/
structure AttributeRule where
  element : String
  name : String
  free : Bool
  value : Option String

structure DocumentType where
  entities : Entities := {}
  rules : List AttributeRule := []
  /-- The elements that are declared. -/
  elements : List String := []
  standalone : Bool := false
  /-- Whether declarations still count. -/
  heeds : Bool := true
  /-- The bytes of the document, and those that entities stand for so far. -/
  size : Nat := 0
  spent : Nat := 0

namespace DocumentType

def rule? (d : DocumentType) (element name : String) : Option AttributeRule :=
  d.rules.find? fun r => r.element == element && r.name == name

def addRule (d : DocumentType) (r : AttributeRule) : DocumentType :=
  if d.heeds && (d.rule? r.element r.name).isNone then { d with rules := d.rules ++ [r] } else d

/-- The first declaration of a name holds; predefined ones stay what they are. -/
def addEntity (d : DocumentType) (name : String) (body : EntityBody) : DocumentType :=
  if d.heeds && (predefined name).isNone && (d.entities.get? name).isNone then
    { d with entities := { d.entities with declared := d.entities.declared ++ [(name, body)] } }
  else d

def mentionsOutside (d : DocumentType) : DocumentType :=
  { d with entities := { d.entities with incomplete := !d.standalone } }

/-- Declarations from elsewhere are mentioned; those behind count only if the document stands
alone. -/
def mentionsDeclarations (d : DocumentType) : DocumentType :=
  { d.mentionsOutside with heeds := d.standalone }

def measured (d : DocumentType) (rest : List Char) : DocumentType :=
  match d.entities.growth (d.size - byteCount rest) d.spent rest with
  | .error left => { d with entities := { d.entities with breach := some left } }
  | .ok _ => d

end DocumentType

def isPublic (c : Char) : Bool :=
  c.isAlphanum || " \r\n-'()+,./:=?;!*#@$_%".toList.contains c

def publicLiteral (cs : List Char) : Except Fault (List Char) := do
  let (text, rest) ← literal cs
  match text.dropWhile isPublic with
  | [] => .ok rest
  | bad => .error ⟨.badPublic, bad.length + 1 + rest.length, false⟩

/-- The place that a keyword announces; the keyword stands at the front of `cs`. -/
def outsidePlace (cs : List Char) : Except Fault (List Char) := do
  match ← word cs with
  | (.name "SYSTEM", rest) => .ok (← literal rest).2
  | (.name "PUBLIC", rest) => .ok (← literal (← publicLiteral rest)).2
  | (t, rest) => misplaced cs t rest

/-- The site of a literal at the front of `cs`, behind whose closing quote `rest` stands. -/
def literalSite (cs rest : List Char) : Site := ⟨spaces cs, some ('"' :: rest)⟩

/-- What an entity stands for, up to the end of its declaration. Only an entity of the document
itself can be something that is no text. -/
def entityBody (d : DocumentType) (ofDocument : Bool) (cs : List Char) :
    Except Fault (Taken EntityBody) := do
  match ← word cs with
  | (.literal text, rest) =>
    let text ←
      if d.heeds then entityText (literalSite cs rest) (text.length + 1) text else .ok []
    .ok (.text text, ← signed '>' rest)
  | _ =>
    let rest ← outsidePlace cs
    match ← word rest with
    | (.sign '>', rest) => .ok (.outside, rest)
    | (.name "NDATA", after) =>
      if ofDocument then
        let (_, rest) ← simple after
        .ok (.unparsed, ← signed '>' rest)
      else misplaced rest (.name "NDATA") after
    | (t, after) => misplaced rest t after

def entityDeclaration (d : DocumentType) (cs : List Char) : Except Fault (Taken DocumentType) := do
  match ← word cs with
  | (.percent, rest) =>
    let (_, rest) ← simple rest
    let (_, rest) ← entityBody d false rest
    .ok (d, rest)
  | (.name name, rest) =>
    let (body, rest) ← entityBody d true rest
    .ok (d.addEntity name body, rest)
  | (t, rest) => misplaced cs t rest

def alternatives (item : Token → Bool) : Nat → List Char → Except Fault (List Char)
  | 0, cs => fault .misplaced cs
  | fuel + 1, cs => do
    let (_, rest) ← take (fun t => if item t then some () else none) cs
    match ← word rest with
    | (.sign ')', rest) => .ok rest
    | (.sign '|', rest) => alternatives item fuel rest
    | (t, after) => misplaced rest t after

def isToken : Token → Bool
  | .name _ | .labelled _ | .nameToken => true
  | _ => false

def isName : Token → Bool
  | .name _ => true
  | _ => false

def tokenTypes : List String :=
  ["ID", "IDREF", "IDREFS", "ENTITY", "ENTITIES", "NMTOKEN", "NMTOKENS"]

/-- The type of an attribute: whether its values are free text. -/
def attributeType (cs : List Char) : Except Fault (Taken Bool) := do
  match ← word cs with
  | (.name "CDATA", rest) => .ok (true, rest)
  | (.name "NOTATION", rest) =>
    let rest ← signed '(' rest
    .ok (false, ← alternatives isName (rest.length + 1) rest)
  | (.sign '(', rest) => .ok (false, ← alternatives isToken (rest.length + 1) rest)
  | (.name keyword, rest) =>
    if tokenTypes.contains keyword then .ok (false, rest) else misplaced cs (.name keyword) rest
  | (t, rest) => misplaced cs t rest

def defaultValue (d : DocumentType) (free : Bool) (cs : List Char) :
    Except Fault (Taken (Option String × DocumentType)) := do
  let valued (cs text rest : List Char) : Except Fault (Taken (Option String × DocumentType)) := do
    if d.heeds then
      match d.entities.growth (d.size - byteCount rest) d.spent text with
      | .error _ => fault .tooMuchGrowth (spaces cs)
      | .ok spent =>
        let value ← attributeValue d.entities free (literalSite cs rest) [] text
        .ok ((some value, { d with spent := spent }), rest)
    else .ok ((none, d), rest)
  match ← word cs with
  | (.pound "IMPLIED", rest) | (.pound "REQUIRED", rest) => .ok ((none, d), rest)
  | (.pound "FIXED", rest) =>
    let (text, after) ← literal rest
    valued rest text after
  | (.literal text, rest) => valued cs text rest
  | (t, rest) => misplaced cs t rest

def attributeRules (element : String) :
    Nat → DocumentType → List Char → Except Fault (Taken DocumentType)
  | 0, _, cs => fault .misplaced cs
  | fuel + 1, d, cs => do
    match ← word cs with
    | (.sign '>', rest) => .ok (d, rest)
    | (.name name, rest) | (.labelled name, rest) =>
      let (free, rest) ← attributeType rest
      let ((value, d), rest) ← defaultValue d free rest
      attributeRules element fuel (d.addRule ⟨element, name, free, value⟩) rest
    | (t, rest) => misplaced cs t rest

/-- The parts of a group, up to its closing parenthesis. The same sign stands between all of
them. -/
def group : Nat → Option Char → List Char → Except Fault (List Char)
  | 0, _, cs => fault .misplaced cs
  | fuel + 1, between, cs => do
    let rest ←
      match ← word cs with
      | (.sign '(', rest) => group fuel none rest
      | (.name _, rest) | (.labelled _, rest) | (.counted, rest) => .ok rest
      | (t, rest) => misplaced cs t rest
    match ← word rest with
    | (.countedGroup _, rest) => .ok rest
    | (.sign c, after) =>
      if c == ')' then .ok after
      else if (c == ',' || c == '|') && between.all (· == c) then group fuel (some c) after
      else misplaced rest (.sign c) after
    | (t, after) => misplaced rest t after

/-- Elements that may be mixed with text, up to the closing parenthesis. -/
def mixed : Nat → List Char → Except Fault (List Char)
  | 0, cs => fault .misplaced cs
  | fuel + 1, cs => do
    let (_, rest) ← anyName cs
    match ← word rest with
    | (.countedGroup '*', rest) => .ok rest
    | (.sign '|', rest) => mixed fuel rest
    | (t, after) => misplaced rest t after

def contentModel (cs : List Char) : Except Fault (List Char) := do
  match ← word cs with
  | (.name "EMPTY", rest) | (.name "ANY", rest) => .ok rest
  | (.sign '(', rest) =>
    match ← word rest with
    | (.pound "PCDATA", rest) =>
      match ← word rest with
      | (.sign ')', rest) | (.countedGroup '*', rest) => .ok rest
      | (.sign '|', rest) => mixed (rest.length + 1) rest
      | (t, after) => misplaced rest t after
    | _ => group (rest.length + 1) none rest
  | (t, rest) => misplaced cs t rest

def elementDeclaration (w : Way) (d : DocumentType) (cs : List Char) :
    Except Fault (Taken DocumentType) := do
  let (element, rest) ← anyName cs
  let rest ← contentModel rest
  if w.refusesRepeats && d.elements.contains element then fault .repeatedElement rest
  else .ok ({ d with elements := element :: d.elements }, ← signed '>' rest)

def notationDeclaration (cs : List Char) : Except Fault (List Char) := do
  let (_, rest) ← simple cs
  match ← word rest with
  | (.name "SYSTEM", rest) => signed '>' (← literal rest).2
  | (.name "PUBLIC", rest) =>
    let rest ← publicLiteral rest
    match ← word rest with
    | (.literal _, rest) => signed '>' rest
    | (.sign '>', rest) => .ok rest
    | (t, after) => misplaced rest t after
  | (t, after) => misplaced rest t after

def declarations (w : Way) :
    Nat → DocumentType → List Char → Except Fault (Taken DocumentType)
  | 0, _, cs => fault .misplaced cs
  | fuel + 1, d, cs => do
    match ← word cs with
    | (.sign ']', rest) => .ok (d, rest)
    | (.comment, rest) | (.instruction, rest) => declarations w fuel d rest
    | (.mention, rest) => declarations w fuel d.mentionsDeclarations rest
    | (.opening "ENTITY", rest) =>
      let (d, rest) ← entityDeclaration d rest
      declarations w fuel d rest
    | (.opening "ATTLIST", rest) =>
      let (element, rest) ← anyName rest
      let (d, rest) ← attributeRules element (rest.length + 1) d rest
      declarations w fuel d rest
    | (.opening "ELEMENT", rest) =>
      let (d, rest) ← elementDeclaration w d rest
      declarations w fuel d rest
    | (.opening "NOTATION", rest) => declarations w fuel d (← notationDeclaration rest)
    | (t, rest) => misplaced cs t rest

def documentType (w : Way) (standalone : Bool) (size : Nat) (cs : List Char) :
    Except Fault (Taken DocumentType) := do
  let d : DocumentType := { standalone := standalone, size := size }
  let (_, rest) ← anyName cs
  let (d, rest) ←
    match ← word rest with
    | (.name _, _) => do pure (d.mentionsOutside, ← outsidePlace rest)
    | _ => pure (d, rest)
  match ← word rest with
  | (.sign '>', rest) => .ok (d, rest)
  | (.sign '[', rest) =>
    let (d, rest) ← declarations w (rest.length + 1) d rest
    .ok (d, ← signed '>' rest)
  | (t, after) => misplaced rest t after

end DroidAudit.Xml
