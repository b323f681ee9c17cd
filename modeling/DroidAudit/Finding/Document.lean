import DroidAudit.Finding.Basic

/-! Findings as structured data. A document holds findings and plain values in lists and tables;
it has a text unless it is nested too deep, and a short notice stands for it if some part has no
plain form. -/
namespace DroidAudit

namespace Value

mutual

/-- How deep the calls are nested that copy a value. -/
def copyDepth : Value → Nat
  | .list items => 2 + max 1 (itemsCopyDepth items)
  | .tuple items => 3 + itemsCopyDepth items
  | .table entries => 2 + max 1 (entriesCopyDepth entries)
  | _ => 2

def itemsCopyDepth : List Value → Nat
  | [] => 0
  | v :: vs => max (copyDepth v) (itemsCopyDepth vs)

def entriesCopyDepth : List (String × Value) → Nat
  | [] => 0
  | (_, v) :: es => max (copyDepth v) (entriesCopyDepth es)

end

end Value

/-- Why something has no form as structured data. -/
inductive DataFault
  | formless
  | tooDeep
  deriving Repr, DecidableEq

namespace Finding

/-- What a finding says, apart from its severity. -/
def fields (f : Finding) : List Value :=
  [f.category, f.description, f.name, f.line, f.file, f.exploit]

def toJson? (f : Finding) : Option Json := do
  let category ← f.category.toJson?
  let description ← f.description.toJson?
  let name ← f.name.toJson?
  let line ← f.line.toJson?
  let file ← f.file.toJson?
  let exploit ← f.exploit.toJson?
  some (.object
    [("category", category), ("severity", .text f.severity.name), ("description", description),
     ("name", name), ("line_number", line), ("file_object", file), ("apk_exploit_dict", exploit)])

/-- A finding is copied before any part of it is given its form. That takes four calls more than
its fields do, and more than the form needs. -/
def copyDepth (f : Finding) : Nat := 4 + Value.itemsCopyDepth f.fields

def toJson (room : Nat) (f : Finding) : Except DataFault Json :=
  if room < f.copyDepth then .error .tooDeep
  else
    match f.toJson? with
    | some j => .ok j
    | none => .error .formless

end Finding

/-- Lists and tables of values are documents themselves, so a value in a document has no parts. -/
inductive Document
  | value (v : Value)
  | finding (f : Finding)
  | list (items : List Document)
  | table (entries : List (String × Document))

namespace Document

mutual

/-- The form of a document if calls can be nested `room` deep. Its first part that has none
decides. -/
def toJson : Nat → Document → Except DataFault Json
  | _, .value v =>
    match v.toJson? with
    | some j => .ok j
    | none => .error .formless
  | room, .finding f => f.toJson room
  | 0, .list _ => .error .tooDeep
  | room + 1, .list items => (itemsToJson room items).map .array
  | 0, .table _ => .error .tooDeep
  | room + 1, .table entries => (entriesToJson room entries).map .object

def itemsToJson : Nat → List Document → Except DataFault (List Json)
  | _, [] => .ok []
  | room, d :: ds => do
    let j ← toJson room d
    let js ← itemsToJson room ds
    return j :: js

def entriesToJson : Nat → List (String × Document) → Except DataFault (List (String × Json))
  | _, [] => .ok []
  | room, (k, d) :: es => do
    let j ← toJson room d
    let js ← entriesToJson room es
    return (k, j) :: js

end

/-- How deep calls can be nested when a document is written. -/
def maxCalls : Nat := 992

def notice : Json := .object [("error", .text "Error encoding to JSON")]

/-- What is written in place of a document without a form. -/
def instead? : DataFault → Option String
  | .formless => some notice.line
  | .tooDeep => none

def text? (d : Document) : Option String :=
  match d.toJson maxCalls with
  | .ok j => some j.layout
  | .error e => instead? e

end Document

def findingsText? (findings : List Finding) : Option String :=
  (Document.list (findings.map .finding)).text?

end DroidAudit
