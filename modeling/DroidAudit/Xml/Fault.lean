/-! What is wrong with an XML document, and where. -/
namespace DroidAudit.Xml

inductive Problem
  /-- A word that may not stand where it does. -/
  | misplaced
  | noElement
  /-- An element without an end. -/
  | openElement
  /-- A sign that is no part of any word. -/
  | badSign
  /-- A word that does not end. -/
  | unclosed
  | cutCharacter
  | otherEndTag
  | repeatedAttribute
  | behindRoot
  /-- An entity of declarations inside of a declaration. -/
  | entityOfDeclarations
  | undefinedEntity
  /-- An entity that only a place that is not read can define. -/
  | unreadEntity (name : String)
  | entityInItself
  /-- An entity that opens an element and does not close it, or the other way round. -/
  | unevenEntity
  | badNumber
  | unparsedEntity
  | outsideEntity
  | lateDeclaration
  /-- An encoding that gives the signs of markup other bytes. -/
  | unfitEncoding
  /-- An encoding that is not the one of the document. -/
  | otherEncoding
  | unclosedSection
  | badDeclaration
  | unboundLabel
  | unboundSpace
  | badPublic
  | reservedXml
  | reservedDeclaring
  | reservedSpace
  /-- An element that is declared twice. -/
  | repeatedElement
  /-- An entity that makes the document grow too much. -/
  | tooMuchGrowth
  deriving Repr, DecidableEq

/-- The front of a text that has at most so many bytes. A character that is cut is replaced. -/
def bytesOf (limit : Nat) : List Char → List Char
  | [] => []
  | c :: cs =>
    if c.utf8Size ≤ limit then c :: bytesOf (limit - c.utf8Size) cs
    else if limit == 0 then []
    else [ '\ufffd']

def Problem.message : Problem → String
  | misplaced => "syntax error"
  | noElement => "no element found"
  | openElement => "no element found"
  | badSign => "not well-formed (invalid token)"
  | unclosed => "unclosed token"
  | cutCharacter => "partial character"
  | otherEndTag => "mismatched tag"
  | repeatedAttribute => "duplicate attribute"
  | behindRoot => "junk after document element"
  | entityOfDeclarations => "illegal parameter entity reference"
  | undefinedEntity => "undefined entity"
  | unreadEntity name =>
    "undefined entity " ++ String.ofList (bytesOf 100 ("&" ++ name ++ ";").toList)
  | entityInItself => "recursive entity reference"
  | unevenEntity => "asynchronous entity"
  | badNumber => "reference to invalid character number"
  | unparsedEntity => "reference to binary entity"
  | outsideEntity => "reference to external entity in attribute"
  | lateDeclaration => "XML or text declaration not at start of entity"
  | unfitEncoding => "unknown encoding"
  | otherEncoding => "encoding specified in XML declaration is incorrect"
  | unclosedSection => "unclosed CDATA section"
  | badDeclaration => "XML declaration not well-formed"
  | unboundLabel => "unbound prefix"
  | unboundSpace => "must not undeclare prefix"
  | badPublic => "illegal character(s) in public id"
  | reservedXml =>
    "reserved prefix (xml) must not be undeclared or bound to another namespace name"
  | reservedDeclaring => "reserved prefix (xmlns) must not be declared or undeclared"
  | reservedSpace => "prefix must not be bound to one of the reserved namespace names"
  | repeatedElement => "element declared twice"
  | tooMuchGrowth => "limit on input amplification factor (from DTD and entities) breached"

/-- A problem, and how many characters stand from its place on. If it is at the end, more text
could have mended it. -/
structure Fault where
  problem : Problem
  left : Nat
  atEnd : Bool := false
  deriving Repr, DecidableEq

namespace Fault

/-- The fault as one of what stands in front of `rest`. -/
def movedTo (rest : List Char) (f : Fault) : Fault := ⟨f.problem, rest.length, false⟩

def inFrontOf (rest : List Char) (f : Fault) : Fault :=
  { f with left := f.left + rest.length }

end Fault

/-- What a reader takes from the front of a text, and the rest. -/
abbrev Taken (α : Type) := α × List Char

def fault {α : Type} (p : Problem) (place : List Char) : Except Fault α :=
  .error ⟨p, place.length, false⟩

def ending {α : Type} (p : Problem) (place : List Char) : Except Fault α :=
  .error ⟨p, place.length, true⟩

/-- The word that begins at `start` cannot go on as the text does. -/
def broken {α : Type} (start rest : List Char) : Except Fault α :=
  if rest.isEmpty then ending .unclosed start else fault .badSign rest

/-- A problem with its place in a document: lines count from one, columns from zero. -/
structure Complaint where
  problem : Problem
  line : Nat
  column : Nat
  deriving Repr, DecidableEq

namespace Complaint

def behind (front : List Char) (p : Problem) : Complaint :=
  ⟨p, front.count '\n' + 1, (front.reverse.takeWhile (· != '\n')).length⟩

def message (c : Complaint) : String :=
  c.problem.message ++ ": line " ++ toString c.line ++ ", column " ++ toString c.column

end Complaint

end DroidAudit.Xml
