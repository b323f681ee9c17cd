import DroidAudit.FileSystem.Basic
import DroidAudit.Path

/-! From paths to locations. Every step but the last must lead through a directory; links are
followed, up to a limit. -/
namespace DroidAudit.FileSystem

def maxLinks : Nat := 40

def maxNameBytes : Nat := 255

def maxPathBytes : Nat := 4095

/-- Walks along the steps from the location `here`. The last step may be missing; if `follow` is
false, a link in last place is not followed. -/
def walk (root : Entry) (follow : Bool) (links : Nat) (here : Location) (steps : List String) :
    Except Cause Location :=
  match steps with
  | [] => .ok here
  | s :: rest =>
    match root.at? here with
    | some (.directory entries) =>
      if s == "" || s == "." then walk root follow links here rest
      else if s == ".." then walk root follow links here.dropLast rest
      else if maxNameBytes < (Text.encoded s).size then .error .tooLong
      else
        let s := Text.listedName s
        match (entries.find? fun e => e.1 == s).map (·.2) with
        | none =>
          if rest.all (· == "") then .ok (here ++ [s]) else .error .notFound
        | some (.link target) =>
          if rest.isEmpty && !follow then .ok (here ++ [s])
          else
            match links with
            | 0 => .error .tooManyLinks
            | links + 1 =>
              walk root follow links (if Path.isAbsolute target then [] else here)
                (Path.steps target ++ rest)
        | some (.file _ _) => if rest.isEmpty then .ok (here ++ [s]) else .error .notADirectory
        | some (.directory _) => walk root follow links (here ++ [s]) rest
    | some _ => .error .notADirectory
    | none => .error .notFound
  termination_by (links, steps.length)

def locate (fs : FileSystem) (follow : Bool) (path : String) : Except Cause Location :=
  if (Text.pathFault? path).isSome then .error .unencodable
  else if path.toList.contains '\x00' then .error .nullCharacter
  else if path.isEmpty then .error .notFound
  else if maxPathBytes < (Text.encoded path).size then .error .tooLong
  else
    walk fs.root follow maxLinks (if Path.isAbsolute path then [] else fs.working)
      (Path.steps path)

def entry (fs : FileSystem) (path : String) : Except Cause Entry := do
  match fs.root.at? (← fs.locate true path) with
  | some e => .ok e
  | none => .error .notFound

def exists? (fs : FileSystem) (path : String) : Bool := (fs.entry path).toOption.isSome

def isDirectory (fs : FileSystem) (path : String) : Bool :=
  (fs.entry path).toOption.any (·.isDirectory)

def isFile (fs : FileSystem) (path : String) : Bool :=
  match fs.entry path with
  | .ok (.file _ _) => true
  | _ => false

def workingPath (fs : FileSystem) : String := pathOf fs.working

def absolute (fs : FileSystem) (path : String) : String :=
  Path.normal (Path.join fs.workingPath path)

mutual

def Entry.links : Entry → Nat
  | .file _ _ => 0
  | .link _ => 1
  | .directory entries => linksOf entries

def linksOf : List (String × Entry) → Nat
  | [] => 0
  | (_, e) :: rest => e.links + linksOf rest

end

def plainStep (here : Location) (s : String) : Location :=
  if s == "" || s == "." then here else if s == ".." then here.dropLast else here ++ [s]

/-- Where the steps from `here` lead with all links followed as far as they lead somewhere, and
whether no link led back to itself. `active` are the links being followed, at most `depth` deep. -/
def realSteps (root : Entry) (depth : Nat) (active : List Location) (here : Location)
    (steps : List String) : Location × Bool :=
  match steps with
  | [] => (here, true)
  | s :: rest =>
    let next := plainStep here s
    if s == "" || s == "." || s == ".." then realSteps root depth active next rest
    else
      match root.at? next with
      | some (.link target) =>
        match depth with
        | 0 => (rest.foldl plainStep next, false)
        | depth + 1 =>
          if active.contains next then (rest.foldl plainStep next, false)
          else
            let base := if Path.isAbsolute target then [] else here
            match realSteps root depth (next :: active) base (Path.steps target) with
            | (there, false) => (rest.foldl plainStep there, false)
            | (there, true) => realSteps root (depth + 1) active there rest
      | _ => realSteps root depth active next rest
  termination_by (depth, steps.length)

def realPath (fs : FileSystem) (path : String) : String :=
  pathOf (realSteps fs.root fs.root.links [] (if Path.isAbsolute path then [] else fs.working)
    (Path.steps path)).1

end DroidAudit.FileSystem
