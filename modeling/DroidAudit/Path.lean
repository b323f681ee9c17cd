import DroidAudit.Text.LowerCase
import DroidAudit.Text.Search

/-! Paths as text: slashes separate the steps, and a leading slash starts at the root. -/
namespace DroidAudit.Path

def isAbsolute (p : String) : Bool := p.toList.head? == some '/'

/-- Puts a slash between two paths unless one is there; an absolute second path stands alone. -/
def join (a b : String) : String :=
  if isAbsolute b then b
  else if a.isEmpty || Text.hasSuffix a "/" then a ++ b
  else a ++ "/" ++ b

def cut (p : String) : List Char × List Char :=
  let tail := (p.toList.reverse.takeWhile (· != '/')).reverse
  (p.toList.take (p.toList.length - tail.length), tail)

/-- The part before the last name, without its closing slashes unless it has nothing else. -/
def directory (p : String) : String :=
  let head := (cut p).1
  if head.all (· == '/') then String.ofList head
  else String.ofList (head.reverse.dropWhile (· == '/')).reverse

/-- The last name; empty after a closing slash. -/
def name (p : String) : String := String.ofList (cut p).2

/-- Cuts a path before the dot of its last name's extension. Dots that open the name start no
extension. -/
def cutExtension (p : String) : String × String :=
  let file := (cut p).2
  let behind := (file.reverse.takeWhile (· != '.')).reverse
  let before := file.take (file.length - behind.length - 1)
  if file.contains '.' && before.any (· != '.') then
    (String.ofList (p.toList.take (p.toList.length - behind.length - 1)),
      String.ofList ('.' :: behind))
  else (p, "")

def extension (p : String) : String := (cutExtension p).2

/-- Whether a path ends in the extension, whatever the case of the letters. -/
def hasExtension (ext p : String) : Bool := extension (Text.lower p) == Text.lower ext

def isJavaFile (p : String) : Bool := hasExtension ".java" p

def steps (p : String) : List String := (Text.splitAt '/' p.toList).map String.ofList

/-- Drops empty and idle steps and lets every step up undo the one before it; `done` holds the
steps kept, last first. Above a relative start, steps up are kept. -/
def foldSteps (absolute : Bool) (done : List String) : List String → List String
  | [] => done.reverse
  | s :: rest =>
    if s == "" || s == "." then foldSteps absolute done rest
    else if s == ".." then
      match done with
      | [] => if absolute then foldSteps absolute [] rest else foldSteps absolute [".."] rest
      | d :: ds =>
        if d == ".." then foldSteps absolute (".." :: done) rest else foldSteps absolute ds rest
    else foldSteps absolute (s :: done) rest

def startsWithTwoSlashes (p : String) : Bool :=
  match p.toList with
  | '/' :: '/' :: '/' :: _ => false
  | '/' :: '/' :: _ => true
  | _ => false

def slashes (p : String) : String :=
  if startsWithTwoSlashes p then "//" else if isAbsolute p then "/" else ""

def normal (p : String) : String :=
  let body := slashes p ++ Text.join "/" (foldSteps (isAbsolute p) [] (steps p))
  if body.isEmpty then "." else body

/-- A path without empty and idle steps; steps up stay. -/
def tidy (p : String) : String :=
  let body := slashes p ++ Text.join "/" ((steps p).filter fun s => s != "" && s != ".")
  if body.isEmpty then "." else body

end DroidAudit.Path
