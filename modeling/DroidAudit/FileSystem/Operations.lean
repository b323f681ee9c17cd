import DroidAudit.FileSystem.Resolve

/-! Reading and changing files and directories. An operation that fails leaves its input system
to the caller; those that work step by step give back the system they reached as well. -/
namespace DroidAudit.FileSystem

abbrev Outcome (α : Type) := Except Fault α × FileSystem

def fault {α : Type} (path : String) : Except Cause α → Except Fault α
  | .ok a => .ok a
  | .error c => .error ⟨c, path⟩

def readBytes (fs : FileSystem) (path : String) : Except Fault ByteArray :=
  fault path do
    match ← fs.entry path with
    | .file bytes _ => .ok bytes
    | .directory _ => .error .isADirectory
    | .link _ => .error .notFound

def put (fs : FileSystem) (l : Location) (e : Option Entry) : FileSystem :=
  { fs with root := fs.root.put l e }

/-- Writes a file, new or in place of its old content; with `append`, behind that content. -/
def writeBytes (fs : FileSystem) (path : String) (append : Bool) (bytes : ByteArray) :
    Except Fault FileSystem :=
  fault path do
    let l ← fs.locate true path
    match fs.root.at? l with
    | some (.directory _) => .error .isADirectory
    | some (.file old executable) =>
      .ok (fs.put l (some (.file (if append then old ++ bytes else bytes) executable)))
    | _ =>
      if Text.hasSuffix path "/" then .error .isADirectory
      else .ok (fs.put l (some (.file bytes false)))

def writeText (fs : FileSystem) (path : String) (append : Bool) (text : String) :
    Except Fault FileSystem :=
  fs.writeBytes path append (Text.encoded text)

def makeDirectory (fs : FileSystem) (path : String) : Except Fault FileSystem :=
  fault path do
    let l ← fs.locate false path
    match fs.root.at? l with
    | some _ => .error .exists
    | none => .ok (fs.put l (some (.directory [])))

def aboveAndName (path : String) : String × String :=
  if Path.name path == "" then
    (Path.directory (Path.directory path), Path.name (Path.directory path))
  else (Path.directory path, Path.name path)

/-- How many directories above one another can be made at once. -/
def maxMissing : Nat := 985

def makeDirectoriesWithin : Nat → FileSystem → String → Outcome Unit
  | 0, fs, path => (.error ⟨.tooDeep, path⟩, fs)
  | fuel + 1, fs, path =>
    let (above, name) := aboveAndName path
    let finish (fs : FileSystem) : Outcome Unit :=
      match fs.makeDirectory path with
      | .ok fs => (.ok (), fs)
      | .error f => (.error f, fs)
    if above != "" && name != "" && !fs.exists? above then
      match makeDirectoriesWithin fuel fs above with
      | (.error f, fs) =>
        if f.cause = .exists then (if name == "." then (.ok (), fs) else finish fs)
        else (.error f, fs)
      | (.ok _, fs) => if name == "." then (.ok (), fs) else finish fs
    else finish fs

def makeDirectories (fs : FileSystem) (path : String) : Outcome Unit :=
  makeDirectoriesWithin maxMissing fs path

/-- The same, content with a directory that exists already. -/
def ensureDirectories (fs : FileSystem) (path : String) : Outcome Unit :=
  match fs.makeDirectories path with
  | (.error f, fs') => if fs'.isDirectory path then (.ok (), fs') else (.error f, fs')
  | done => done

def makeExecutable (fs : FileSystem) (path : String) : Except Fault FileSystem :=
  fault path do
    let l ← fs.locate true path
    match fs.root.at? l with
    | some (.file bytes _) => .ok (fs.put l (some (.file bytes true)))
    | some _ => .ok fs
    | none => .error .notFound

/-- Removes a directory and everything in it. A link is no directory here. -/
def removeTree (fs : FileSystem) (path : String) : Except Fault FileSystem :=
  fault path do
    let l ← fs.locate false path
    match fs.root.at? l with
    | some (.directory _) => .ok (fs.put l none)
    | some (.link _) => .error .linkToTree
    | some _ => .error .notADirectory
    | none => .error .notFound

/-- Gives an entry another place and replaces what was there. -/
def rename (fs : FileSystem) (source target : String) : Except Fault FileSystem := do
  let old ← fault source (fs.locate false source)
  let new ← fault target (fs.locate false target)
  match fs.root.at? old with
  | some e => .ok ((fs.put old none).put new (some e))
  | none => .error ⟨.notFound, source⟩

/-- Moves a file; into the target, if that is a directory. -/
def moveFile (fs : FileSystem) (source target : String) : Except Fault FileSystem :=
  if fs.isDirectory target then
    let inner := Path.join target (Path.name source)
    if fs.exists? inner then .error ⟨.taken, inner⟩ else fs.rename source inner
  else fs.rename source target

def changeDirectory (fs : FileSystem) (path : String) : Except Fault FileSystem :=
  fault path do
    let l ← fs.locate true path
    match fs.root.at? l with
    | some (.directory _) => .ok { fs with working := l }
    | some _ => .error .notADirectory
    | none => .error .notFound

/-- Copies a file; into the target, if that is a directory. -/
def copyFile (fs : FileSystem) (source target : String) : Except Fault FileSystem := do
  let target := if fs.isDirectory target then Path.join target (Path.name source) else target
  match ← fault source (fs.entry source) with
  | .file bytes executable =>
    let l ← fault target (fs.locate true target)
    let sourceLocation ← fault source (fs.locate true source)
    if l == sourceLocation then .error ⟨.taken, target⟩
    else .ok (fs.put l (some (.file bytes executable)))
  | _ => .error ⟨.isADirectory, source⟩

def maxDepth : Nat := 495

attribute [local irreducible] makeDirectories in
mutual

/-- Copies a directory to a place that is still free. What stands in it is listed before that place
is made, and links are replaced by what they lead to. -/
def copyDirectory (depth : Nat) (fs : FileSystem) (source target : String) : Outcome Unit :=
  match depth, fs.entry source with
  | 0, _ => (.error ⟨.tooDeep, source⟩, fs)
  | _ + 1, .error c => (.error ⟨c, source⟩, fs)
  | depth + 1, .ok (.directory entries) =>
    match fs.makeDirectories target with
    | (.error f, fs) => (.error f, fs)
    | (.ok (), fs) => copyNames depth fs source target true (entries.map (·.1))
  | _ + 1, .ok _ => (.error ⟨.notADirectory, source⟩, fs)
  termination_by (depth, 0)

/-- Copies what stands under the given names in a directory. What cannot be copied is left out, and
`whole` tells whether that happened before. -/
def copyNames (depth : Nat) (fs : FileSystem) (source target : String) (whole : Bool)
    (names : List String) : Outcome Unit :=
  match names with
  | [] => (if whole then .ok () else .error ⟨.partlyCopied, source⟩, fs)
  | name :: rest =>
    let inner := Path.join source name
    let place := Path.join target name
    if fs.isDirectory inner then
      match copyDirectory depth fs inner place with
      | (.ok (), fs) => copyNames depth fs source target whole rest
      | (.error f, fs) =>
        if f.cause = .tooDeep then (.error f, fs)
        else copyNames depth fs source target false rest
    else
      match fs.copyFile inner place with
      | .ok fs => copyNames depth fs source target whole rest
      | .error _ => copyNames depth fs source target false rest
  termination_by (depth, names.length + 1)

end

def copyTree (fs : FileSystem) (source target : String) : Outcome Unit :=
  copyDirectory maxDepth fs source target

mutual

/-- Every file below an entry with its path, links not entered; an empty directory stands for
itself. -/
def Entry.leaves (path : String) : Entry → List (String × Option Entry)
  | .file bytes x => [(path, some (.file bytes x))]
  | .link target => [(path, some (.link target))]
  | .directory [] => [(path, none)]
  | .directory (e :: es) => leavesOfEntries path (e :: es)

def leavesOfEntries (path : String) : List (String × Entry) → List (String × Option Entry)
  | [] => []
  | (name, e) :: rest =>
    e.leaves (if path == "" then name else path ++ "/" ++ name) ++ leavesOfEntries path rest

end

mutual

/-- The files below a directory in the order of a walk: the names in it, then those in its
directories. Links to directories are not entered and not counted as files. -/
def filesBelow (isDirectory : String → Bool) (path : String) : Entry → List String
  | .directory entries =>
    ((entries.filter fun e => !isDirectory (Path.join path e.1)).map fun e => Path.join path e.1) ++
      filesBelowEntries isDirectory path entries
  | _ => []

def filesBelowEntries (isDirectory : String → Bool) (path : String) :
    List (String × Entry) → List String
  | [] => []
  | (name, e) :: rest =>
    filesBelow isDirectory (Path.join path name) e ++ filesBelowEntries isDirectory path rest

end

def files (fs : FileSystem) (path : String) : List String :=
  match fs.entry path with
  | .ok e => filesBelow fs.isDirectory path e
  | .error _ => []

end DroidAudit.FileSystem
