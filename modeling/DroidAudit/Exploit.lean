import DroidAudit.Command.Tools
import DroidAudit.Manifest
import DroidAudit.Properties
import DroidAudit.Resources

/-! An app that shows what the exported components of the audited one let others do. It is copied
from a template; the components are written into its resources, and then it is built. -/
namespace DroidAudit

/-- The app to be built. Parts that have not been set yet are missing. -/
structure Exploit where
  path : String := ""
  sdk : String := ""
  findings : List Finding := []
  /-- The directory of the resources, and the file of properties. -/
  values : Option String := none
  properties : Option String := none
  package : Option (Option String) := none

structure ExploitBench where
  desk : Desk
  exploit : Exploit := {}

namespace Exploit

abbrev Work (α : Type) := Step ExploitBench α

def atDesk {α : Type} (work : Desk.Work α) : Work α :=
  work.within (·.desk) fun b d => { b with desk := d }

def current : Work Exploit := .of fun b => (.ok b.exploit, b)

def update (f : Exploit → Exploit) : Work Unit :=
  .of fun b => (.ok (), { b with exploit := f b.exploit })

def demand {α : Type} (part : String) (get : Exploit → Option α) : Work α := do
  match get (← current) with
  | some a => return a
  | none => throw (.lacksPart "Exploit" part)

def packageAt (fs : FileSystem) (manifest : Option String) : Except Failure (Option String) :=
  match Manifest.packageAt fs manifest with
  | .ok package => .ok package
  | .error (.file _) => .error (.stop (.manifestNotRead (manifest.getD "None")))
  | .error e => .error e

def create (template : String) (manifest : Option String) (findings : List Finding)
    (directory name sdk : String) : Work Unit := do
  let path := Path.join directory (name ++ "_exploit_apk")
  update fun e => { e with path := path, sdk := sdk, findings := findings }
  atDesk do
    if ← Desk.look (·.isDirectory path) then Desk.change (·.removeTree path)
    Desk.perform fun fs =>
      let (result, fs) := fs.copyTree template path
      (result.mapError fun _ => .stop (.templateNotCopied template path), fs)
  let values := ["app", "src", "main", "res", "values"].foldl Path.join path
  update fun e =>
    { e with values := some values, properties := some (Path.join path "local.properties") }
  let package ← atDesk do
    match ← Desk.look (packageAt · manifest) with
    | .ok package => return package
    | .error e => throw e
  update fun e => { e with package := some package }

def takesExtras (c : Component) : Bool := c != .service

/-- The elements of a value that can be gone through. Those of a kind of component have no written
form either. -/
def elements : Value → Except Failure (List Value)
  | .list items => .ok items
  | .tuple items => .ok items
  | .text s => .ok ((Text.points s.toList).map fun n => .text (String.ofList (Text.ofPoint n)))
  | .table entries => .ok (entries.map fun e => .text e.1)
  | .component c => .ok [.component c]
  | _ => .error .unsuited

def writeExtras (path : String) (key : Value) : List Value → Desk.Work Unit
  | [] => return ()
  | v :: rest => do
    discard (Desk.perform fun fs => Resources.addItem fs key v path false)
    writeExtras path key rest

def writeComponent (values : String) (c : Component) (name package arguments : Value) :
    Desk.Work Unit := do
  let key ← Desk.perform fun fs =>
    Resources.addItem fs (.text c.listName) (.text c.word) (Path.join values "intentID.xml") true
  if arguments.isPresent && takesExtras c then
    match elements arguments with
    | .error e => throw e
    | .ok items => writeExtras (Path.join values "extraKeys.xml") key items
  Desk.perform fun fs =>
    Resources.setText fs key (.text (package.display ++ name.display))
      (Path.join values "strings.xml")

/-- Writes what a finding says about an exploit; one that lacks a part is passed over. -/
def writeFinding (f : Finding) : Work Unit := do
  if !f.exploit.isPresent then return ()
  match f.exploit with
  | .table _ =>
    match f.exploit.get? "exported_enum", f.exploit.get? "tag_name",
        f.exploit.get? "package_name" with
    | some (.component c), some name, some package =>
      let values ← demand "values" (·.values)
      atDesk (writeComponent values c name package ((f.exploit.get? "arguments").getD .null))
    | some _, some _, some _ => throw .unsupported
    | _, _, _ => return ()
  | .component _ => return ()
  | _ => throw .unsuited

def writeFindingsFrom : List Finding → Work Unit
  | [] => return ()
  | f :: fs => do
    writeFinding f
    writeFindingsFrom fs

def writeFindings : Work Unit := do
  writeFindingsFrom (← current).findings

def writeProperties (properties : List (Value × Value)) (append : Bool) : Work Unit := do
  let path ← demand "properties" (·.properties)
  let fault? (p : Value × Value) := Text.encodeFault? (Properties.entryText p.1 p.2)
  let written := properties.takeWhile fun p => (fault? p).isNone
  atDesk (Desk.change (·.writeText path append (Properties.text written)))
  match (properties.drop written.length).head?.bind fault? with
  | some f => throw (.unencodable f)
  | none => return ()

def readProperties : Work (List (String × String)) := do
  let path ← demand "properties" (·.properties)
  atDesk do
    match ← Desk.look (·.textAt (some path)) with
    | .error e => throw e
    | .ok source =>
      match Properties.read source with
      | .error f => throw (.properties f)
      | .ok properties => return properties

def buildLine : List String := ["./gradlew", "assembleDebug"]

def buildThere (t : Tools) : Work Unit := do
  let e ← current
  atDesk (Desk.change (·.changeDirectory e.path))
  let package ← demand "package" (·.package)
  let values ← demand "values" (·.values)
  atDesk (Desk.perform fun fs =>
    Resources.setText fs (.text "packageName") (optionalText package)
      (Path.join values "strings.xml"))
  writeProperties [(.text "sdk.dir", .text e.sdk)] true
  let status ← atDesk (Desk.start t buildLine false)
  if status != 0 then throw (.toolFailed buildLine status.toNat)

def build (t : Tools) : Work Unit := do
  writeFindings
  let before ← atDesk (Desk.look (·.workingPath))
  (buildThere t).thenAlways (atDesk (Desk.change (·.changeDirectory before)))

end Exploit

end DroidAudit
