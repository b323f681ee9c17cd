import DroidAudit.Failure
import DroidAudit.Xml.Edit
import DroidAudit.Xml.Query
import DroidAudit.Xml.Reader
import DroidAudit.Xml.Writer

/-! Files of named texts and of named lists of texts. -/
namespace DroidAudit.Resources

abbrev Changed (α : Type) := Except Failure α × FileSystem

/-- The text that a value is written as inside an element. A value that is there but is no text
has no written form. -/
def textOf : Value → Option String
  | .text s => some s
  | v => if v.isPresent then none else some ""

def readDocument (fs : FileSystem) (path : String) : Except Failure Xml.Element :=
  match fs.entry path with
  | .error .tooLong => .error (.file ⟨.tooLong, path⟩)
  | .error _ => .error (.stop (.noResourceFile path))
  | .ok _ =>
    match fs.readBytes path with
    | .error _ => .error (.stop (.badResourceFile path))
    | .ok bytes =>
      match Xml.read .tree bytes with
      | .error (.malformed _) => .error (.stop (.badResourceFile path))
      | .error e => .error (.document .tree e)
      | .ok root => .ok root

def writeFailure : Xml.WriteFault → Failure
  | .formless => .unsuited
  | .tooDeep => .tooDeep

/-- Writes a document. Where something cannot be written the file is cut off. -/
def writeDocument {α : Type} (fs : FileSystem) (path : String) (root : Xml.Element) (result : α) :
    Changed α :=
  let (text, fault) := Xml.documentText root
  match fs.writeText path false text with
  | .error f => (.error (.ofFault f), fs)
  | .ok fs =>
    match fault with
    | none => (.ok result, fs)
    | some f => (.error (writeFailure f), fs)

def escapedSigns : List String := ["&", "<", ">", "\"", "\r", "\n", "\t"]

def isEscapedSign : Value → Bool
  | .text s => escapedSigns.contains s
  | _ => false

/-- How a name is written as the value of an attribute. A collection is written as it stands,
unless one of its members is a sign to be escaped; other values than texts are not written. -/
def formOf : Value → Xml.Form
  | .text _ => .escaped
  | .list items => if items.any isEscapedSign then .unwritten else .verbatim
  | .tuple items => if items.any isEscapedSign then .unwritten else .verbatim
  | .table entries =>
    if entries.any fun e => escapedSigns.contains e.1 then .unwritten else .verbatim
  | _ => .unwritten

def named (tag : String) (name : Value) : Xml.Element :=
  Xml.named tag name.display (formOf name)

def queryFailure : Xml.Query.Error → Failure
  | .malformed => .brokenQuery
  | .noStep word => .noEntry word
  | .unfinished => .unsuited
  | .number e => .number e

/-- The query for a text of that name. The name stands in single quotes, so one that holds such a
quote changes what is asked for. -/
def queryFor (key : Value) : String := ".//string[@name='" ++ key.display ++ "']"

/-- Sets the first text of that name anywhere below the root, or adds one at the end. -/
def setText (fs : FileSystem) (key value : Value) (path : String) : Changed Unit :=
  let path := Path.tidy path
  match readDocument fs path with
  | .error e => (.error e, fs)
  | .ok root =>
    let text := textOf value
    match Xml.find? root (queryFor key) with
    | .error e => (.error (queryFailure e), fs)
    | .ok (some place) => writeDocument fs path (root.changeAt (·.withText text) place) ()
    | .ok none => writeDocument fs path (root.addChild ((named "string" key).withText text)) ()

def itemsOf (e : Xml.Element) : Nat :=
  (e.children.filter fun (c, _) => c.name.isPlain "item").length

/-- Whether an element is the list of a name: without a name it is a list that has none, and any
other value than a text names no list. -/
def isArray (array : Value) (e : Xml.Element) : Bool :=
  e.name.isPlain "string-array" &&
    match array with
    | .text name => e.plainAttribute? "name" == some name
    | .null => (e.plainAttribute? "name").isNone
    | _ => false

/-- Adds an item to the first list of that name among the children of the root, or to a new list.
With `addId` the number of the item is put behind it. -/
def addItem (fs : FileSystem) (array value : Value) (path : String) (addId : Bool) :
    Changed Value :=
  let path := Path.tidy path
  match readDocument fs path with
  | .error e => (.error e, fs)
  | .ok root =>
    let list := root.children.find? fun (e, _) => isArray array e
    let last := (list.map fun (e, _) => itemsOf e).getD 0
    let value := if addId then .text (value.display ++ toString (last + 1)) else value
    let item : Xml.Element := .mk (.plain "item") [] (textOf value) []
    let root :=
      match Xml.changeFirstChild (isArray array) (·.addChild item) root.children with
      | some children => root.withChildren children
      | none => root.addChild ((named "string-array" array).addChild item)
    writeDocument fs path root value

end DroidAudit.Resources
