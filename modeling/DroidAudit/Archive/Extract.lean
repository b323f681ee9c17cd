import DroidAudit.Archive.Reader
import DroidAudit.FileSystem.Operations

/-! Extracting an archive into a directory, member by member. A name cannot lead out of the
directory: leading slashes, empty steps and steps up are left out. -/
namespace DroidAudit.Archive

inductive ExtractFault
  | archive (f : Fault)
  | file (f : FileSystem.Fault)

def ExtractFault.message : ExtractFault → String
  | archive f => f.message
  | file f => f.message

def safeSteps (name : String) : List String :=
  (Path.steps name).filter fun s => s != "" && s != "." && s != ".."

def targetOf (destination name : String) : String :=
  Path.normal (Path.join destination (Text.join "/" (safeSteps name)))

abbrev Extracted := Except ExtractFault Unit × FileSystem

def makeAbove (fs : FileSystem) (path : String) : Extracted :=
  let above := Path.directory path
  if above.isEmpty || fs.exists? above then (.ok (), fs)
  else
    match fs.makeDirectories above with
    | (.ok (), fs) => (.ok (), fs)
    | (.error f, fs) => (.error (.file f), fs)

def extractFile (fs : FileSystem) (bytes : ByteArray) (l : Listing) (target : String) : Extracted :=
  match contentPlace bytes l with
  | .error f => (.error (.archive f), fs)
  | .ok (place, packing) =>
    match fs.writeBytes target false .empty with
    | .error f => (.error (.file f), fs)
    | .ok fs =>
      let (result, copied) : Except ExtractFault Unit × ByteArray :=
        match content bytes place packing l with
        | .error (f, copied) => (.error (.archive f), copied)
        | .ok whole => (.ok (), whole)
      match fs.writeBytes target false copied with
      | .error f => (.error (.file f), fs)
      | .ok fs => (result, fs)

def extractMember (fs : FileSystem) (bytes : ByteArray) (l : Listing) (destination : String) :
    Extracted :=
  let target := targetOf destination l.name
  match makeAbove fs target with
  | (.error f, fs) => (.error f, fs)
  | (.ok (), fs) =>
    if l.name.isEmpty then (.error (.archive .emptyName), fs)
    else if l.isDirectory then
      if fs.isDirectory target then (.ok (), fs)
      else
        match fs.makeDirectory target with
        | .ok fs => (.ok (), fs)
        | .error f => (.error (.file f), fs)
    else extractFile fs bytes l target

def extractMembers (bytes : ByteArray) (all : List Listing) (destination : String) :
    List Listing → FileSystem → Extracted
  | [], fs => (.ok (), fs)
  | l :: ls, fs =>
    let chosen := (lastNamed all l.name).getD l
    match extractMember fs bytes chosen destination with
    | (.ok (), fs) => extractMembers bytes all destination ls fs
    | failed => failed

def extract (fs : FileSystem) (path destination : String) : Extracted :=
  match fs.readBytes path with
  | .error f => (.error (.file f), fs)
  | .ok bytes =>
    match directory bytes with
    | .error f => (.error (.archive f), fs)
    | .ok listings => extractMembers bytes listings destination listings fs

end DroidAudit.Archive
