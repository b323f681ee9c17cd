import DroidAudit.Failure
import DroidAudit.Xml.Reader

/-! The manifest of an app: what is known of it, and how it is learnt from a file. -/
namespace DroidAudit

/-- What is known of the manifest: its path, its root element if the file could be read, the
levels of the platform it asks for, and the package it names. -/
structure Manifest where
  path : Option String := none
  root : Option Xml.Element := none
  minSdk : Int := -1
  targetSdk : Int := -1
  package : Option String := some "PACKAGE_NOT_FOUND"

namespace Manifest

/-- The level that the first element on levels gives; one if none is given. -/
def level (root : Xml.Element) (written : String) : Except Failure Int :=
  if root.isTooDeep then .error .tooDeep
  else
    match root.allWritten "uses-sdk" with
    | [] => .ok 1
    | e :: _ =>
      match e.attribute? written with
      | none => .ok 1
      | some text => (Text.readInteger text).mapError .number

def minSdkOf (root : Xml.Element) : Except Failure Int :=
  level root "android:minSdkVersion"

def targetSdkOf (root : Xml.Element) : Except Failure Int :=
  level root "android:targetSdkVersion"

def packageOf (root : Xml.Element) : Option String := root.plainAttribute? "package"

/-- The first path that ends in the usual name, in any case. -/
def find? (files : List String) : Option String :=
  files.find? fun f => Text.hasSuffix (Text.lower f) "androidmanifest.xml"

def readRoot (fs : FileSystem) (way : Xml.Way) (path : Option String) :
    Except Failure Xml.Element := do
  let bytes ← fs.bytesAt path
  (Xml.read way bytes).mapError (.document way)

def packageAt (fs : FileSystem) (path : Option String) : Except Failure (Option String) := do
  return packageOf (← readRoot fs .tree path)

/-- Learns a manifest from a file. A file that cannot be read leaves the levels and the package as
they were. A level that is no number stops the learning there. -/
def update (fs : FileSystem) (m : Manifest) (path : Option String) :
    Manifest × Option Failure :=
  match readRoot fs .document path with
  | .error _ => ({ m with path := path, root := none }, none)
  | .ok root =>
    let m := { m with path := path, root := some root }
    match minSdkOf root with
    | .error e => (m, some e)
    | .ok minSdk =>
      let m := { m with minSdk := minSdk }
      match targetSdkOf root with
      | .error e => (m, some e)
      | .ok targetSdk =>
        let m := { m with targetSdk := targetSdk }
        match packageAt fs path with
        | .error e => (m, some e)
        | .ok package => ({ m with package := package }, none)

/-- The document that a level is asked of: the one at `path`, or else the manifest among the
files. -/
def chosenRoot (fs : FileSystem) (path : Option String) (files : List String) :
    Except Failure Xml.Element := do
  let path := if path.isNone && !files.isEmpty then find? files else path
  match path with
  | none => .error (.absent .document)
  | some p => readRoot fs .document (some p)

/-- The least level of the platform, from known constants or else from the manifest among the
files. -/
def minSdkFromFiles (fs : FileSystem) (files : List String) (constants : Value) :
    Except Failure Int :=
  let fromFiles : Except Failure Int :=
    match files.find? fun f => Text.hasSuffix (Text.lower f) "/androidmanifest.xml" with
    | none => .ok 1
    | some f => do minSdkOf (← readRoot fs .document (some f))
  match constants.get? "min_sdk" with
  | some (Value.text s) => (Text.readInteger s).mapError .number
  | some (Value.real x) =>
    match Decimal.truncate? x with
    | some n => .ok n
    | none => fromFiles
  | some v =>
    match v.asInteger? with
    | some n => .ok n
    | none => fromFiles
  | none => fromFiles

end Manifest

end DroidAudit
