import DroidAudit.Text.Half
import DroidAudit.Text.Search
import DroidAudit.Xml.Basic

/-! Writing XML documents: no declaration, double quotes, and every namespace declared on the root
under a label of its own. -/
namespace DroidAudit.Xml

def knownLabels : List (String × String) :=
  [("http://www.w3.org/XML/1998/namespace", "xml"),
   ("http://www.w3.org/1999/xhtml", "html"),
   ("http://www.w3.org/1999/02/22-rdf-syntax-ns#", "rdf"),
   ("http://schemas.xmlsoap.org/wsdl/", "wsdl"),
   ("http://www.w3.org/2001/XMLSchema", "xs"),
   ("http://www.w3.org/2001/XMLSchema-instance", "xsi"),
   ("http://purl.org/dc/elements/1.1/", "dc")]

abbrev Labels := List (String × String)

def Labels.get? (labels : Labels) (space : String) : Option String :=
  (labels.find? (·.1 == space)).map (·.2)

/-- Gives a namespace a label if it has none. The label of the reserved namespace is never
declared. -/
def Labels.add (labels : Labels) (space : String) : Labels :=
  if space.isEmpty || (labels.get? space).isSome then labels
  else
    match Labels.get? knownLabels space with
    | some "xml" => labels
    | some known => labels ++ [(space, known)]
    | none => labels ++ [(space, "ns" ++ toString labels.length)]

def labelsOf (root : Element) : Labels :=
  root.all.foldl
    (fun labels e =>
      (e.name :: e.attributes.map (·.name)).foldl (fun ls n => ls.add n.space) labels)
    []

def writtenName (labels : Labels) (n : Name) : String :=
  if n.space.isEmpty then n.part
  else
    match labels.get? n.space with
    | some label => label ++ ":" ++ n.part
    | none => "xml:" ++ n.part

def escapedTextChar : Char → List Char
  | '&' => "&amp;".toList
  | '<' => "&lt;".toList
  | '>' => "&gt;".toList
  | c => [c]

def escapedValueChar : Char → List Char
  | '"' => "&quot;".toList
  | '\r' => "&#13;".toList
  | '\n' => "&#10;".toList
  | '\t' => "&#09;".toList
  | c => escapedTextChar c

/-- One code point. Those beyond the first 128 are written by their numbers. -/
def writtenPoint (escape : Char → List Char) (n : Nat) : List Char :=
  if n < 128 then escape (Char.ofNat n) else ("&#" ++ toString n ++ ";").toList

def written (escape : Char → List Char) (s : String) : String :=
  String.ofList ((Text.points s.toList).flatMap (writtenPoint escape))

def writtenText (s : String) : String := written escapedTextChar s

def writtenValue (s : String) : String := written escapedValueChar s

def writtenPlain (s : String) : String := written (fun c => [c]) s

def Attribute.writtenValue? (a : Attribute) : Option String :=
  match a.form with
  | .escaped => some (writtenValue a.value)
  | .verbatim => some (writtenPlain a.value)
  | .unwritten => none

/-- Why a document cannot be written to its end. -/
inductive WriteFault
  | formless
  | tooDeep
  deriving Repr, DecidableEq

/-- A part of a document's text, or why it cannot be written. -/
abbrev Stretch := Except WriteFault String

def Stretch.of? : Option String → Stretch
  | some s => .ok s
  | none => .error .formless

def Stretch.fault? : Stretch → Option WriteFault
  | .ok _ => none
  | .error f => some f

def attributePieces (labels : Labels) (e : Element) : List Stretch :=
  e.attributes.map fun a =>
    Stretch.of? (a.writtenValue?.map fun value =>
      " " ++ writtenPlain (writtenName labels a.name) ++ "=\"" ++ value ++ "\"")

mutual
/-- The pieces of an element's text, where elements can be nested `room` deep. `declared` is written
among the attributes. -/
def elementPieces (labels : Labels) (declared : List Stretch) : Nat → Element → List Stretch
  | 0, _ => [.error .tooDeep]
  | room + 1, .mk name attributes text children =>
    let tag := writtenPlain (writtenName labels name)
    let start :=
      .ok ("<" ++ tag) :: declared ++ attributePieces labels (.mk name attributes text children)
    if text == some "" && children.isEmpty then start ++ [.ok " />"]
    else
      start ++ .ok ">" :: Stretch.of? (text.map writtenText) :: childrenPieces labels room children ++
        [.ok ("</" ++ tag ++ ">")]

def childrenPieces (labels : Labels) : Nat → List (Element × String) → List Stretch
  | _, [] => []
  | room, (e, tail) :: rest =>
    elementPieces labels [] room e ++ .ok (writtenText tail) :: childrenPieces labels room rest
end

/-- How deep elements can be nested in a document that is written. -/
def maxHeight : Nat := 990

/-- The pieces of a document. Labels are declared in alphabetical order. -/
def documentPieces (root : Element) : List Stretch :=
  let labels := labelsOf root
  let declared := (labels.mergeSort fun a b => a.2 ≤ b.2).map fun (space, label) =>
    .ok (" xmlns:" ++ label ++ "=\"" ++ writtenValue space ++ "\"")
  elementPieces labels declared maxHeight root

/-- The text of a document, up to the first part that cannot be written, and why it ends there. -/
def documentText (root : Element) : String × Option WriteFault :=
  let pieces := documentPieces root
  (String.join ((pieces.takeWhile Except.isOk).filterMap Except.toOption),
    pieces.findSome? Stretch.fault?)

end DroidAudit.Xml
