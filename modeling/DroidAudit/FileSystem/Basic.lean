import DroidAudit.Text.Lines
import DroidAudit.Text.Utf8

/-! A file system as a value: files, directories and symbolic links, and the place where relative
paths start. -/
namespace DroidAudit
namespace FileSystem

inductive Entry
  | file (bytes : ByteArray) (executable : Bool)
  | directory (entries : List (String × Entry))
  | link (target : String)
  deriving Inhabited

inductive Cause
  | notFound
  | exists
  | notADirectory
  | isADirectory
  | tooManyLinks
  /-- A name or a path has too many bytes. -/
  | tooLong
  /-- A path holds the character that ends paths. -/
  | nullCharacter
  /-- A path holds halves of pairs, for which no bytes stand. -/
  | unencodable
  /-- Only a directory itself can be removed with its content, not a link to one. -/
  | linkToTree
  /-- The place that something is moved to is taken. -/
  | taken
  /-- Something in a directory could not be copied. -/
  | partlyCopied
  /-- Directories are nested too deep, as in a copy that goes into itself again and again. -/
  | tooDeep
  deriving Repr, DecidableEq

/-- Whether the path itself is the reason, so that nothing was asked of the files. -/
def Cause.isOfPath : Cause → Bool
  | nullCharacter => true
  | unencodable => true
  | _ => false

structure Fault where
  cause : Cause
  path : String
  deriving Repr, DecidableEq

def Fault.message (f : Fault) : String :=
  let numbered (number : Nat) (words : String) : String :=
    "[Errno " ++ toString number ++ "] " ++ words ++ ": " ++ Text.quoted f.path
  match f.cause with
  | .notFound => numbered 2 "No such file or directory"
  | .exists => numbered 17 "File exists"
  | .notADirectory => numbered 20 "Not a directory"
  | .isADirectory => numbered 21 "Is a directory"
  | .tooManyLinks => numbered 40 "Too many levels of symbolic links"
  | .tooLong => numbered 36 "File name too long"
  | .nullCharacter => "embedded null byte"
  | .unencodable => ((Text.pathFault? f.path).map (·.message)).getD ""
  | .linkToTree => "Cannot call rmtree on a symbolic link"
  | .taken => "Destination path '" ++ f.path ++ "' already exists"
  | .partlyCopied => "Not everything in '" ++ f.path ++ "' was copied"
  | .tooDeep => "maximum recursion depth exceeded"

abbrev Location := List String

end FileSystem

/-- The root directory and the directory where relative paths start. -/
structure FileSystem where
  root : FileSystem.Entry
  working : FileSystem.Location
  deriving Inhabited

namespace FileSystem

def Entry.isDirectory : Entry → Bool
  | .directory _ => true
  | _ => false

def Entry.child? : Entry → String → Option Entry
  | .directory entries, name => (entries.find? fun e => e.1 == name).map (·.2)
  | _, _ => none

def Entry.at? : Entry → Location → Option Entry
  | e, [] => some e
  | e, name :: rest => (e.child? name).bind (·.at? rest)

def setChild (name : String) (new : Option Entry) :
    List (String × Entry) → List (String × Entry)
  | [] => (new.map fun e => (name, e)).toList
  | (n, e) :: rest =>
    if n == name then (new.map fun e => (name, e)).toList ++ rest
    else (n, e) :: setChild name new rest

def Entry.put : Entry → Location → Option Entry → Entry
  | e, [], new => new.getD e
  | .directory entries, name :: rest, new =>
    match rest with
    | [] => .directory (setChild name new entries)
    | _ :: _ =>
      match (entries.find? fun e => e.1 == name).map (·.2) with
      | some child => .directory (setChild name (some (child.put rest new)) entries)
      | none => .directory entries
  | e, _ :: _, _ => e

def empty (working : Location) : FileSystem :=
  { root := working.foldr (fun name inner => .directory [(name, inner)]) (.directory [])
    working := working }

def pathOf (l : Location) : String := "/" ++ String.intercalate "/" l

end FileSystem
end DroidAudit
