import DroidAudit.Failure

/-! Steps that may fail and change a state. What a step has changed before it fails stays. -/
namespace DroidAudit

abbrev Step (σ α : Type) := ExceptT Failure (StateM σ) α

namespace Step

variable {σ τ α : Type}

def of (f : σ → Except Failure α × σ) : Step σ α := ExceptT.mk f

def outcome (step : Step σ α) (s : σ) : Except Failure α × σ := (ExceptT.run step).run s

def within (part : τ → σ) (put : τ → σ → τ) (step : Step σ α) : Step τ α :=
  .of fun t =>
    let (result, s) := step.outcome (part t)
    (result, put t s)

def attempt (step : Step σ Unit) : Step σ Unit :=
  .of fun s => (.ok (), (step.outcome s).2)

def thenAlways (step : Step σ α) (after : Step σ Unit) : Step σ α :=
  .of fun s =>
    let (result, s) := step.outcome s
    match after.outcome s with
    | (.error e, s) => (.error e, s)
    | (.ok (), s) => (result, s)

end Step

/-! External programs. They are run through a record of functions, and every call is kept. -/

/-- A program that was started: its words, the directory it was started in, and whether a shell
was asked to start it. -/
structure Call where
  line : List String
  working : Option String := none
  shell : Bool := false
  deriving Repr, DecidableEq

structure Tools where
  /-- The system that the tools were chosen for, and the one that they run on. -/
  chosenFor : String := "Linux"
  system : String := "Linux"
  /-- The directories of the converter, the unpacker and the decompilers. -/
  converter : String
  unpacker : String
  decompilers : String
  /-- What is printed about the version of Java, or why nothing is. -/
  javaVersion : Except String String
  /-- The exit status of a program, or why it cannot be run; and the files it leaves. -/
  run : List String → FileSystem → Except String Int × FileSystem

structure Desk where
  fs : FileSystem
  calls : List Call := []

namespace Desk

abbrev Work (α : Type) := Step Desk α

def look {α : Type} (f : FileSystem → α) : Work α := .of fun d => (.ok (f d.fs), d)

def change (f : FileSystem → Except FileSystem.Fault FileSystem) : Work Unit :=
  .of fun d =>
    match f d.fs with
    | .ok fs => (.ok (), { d with fs := fs })
    | .error e => (.error (.ofFault e), d)

def perform {α : Type} (f : FileSystem → Except Failure α × FileSystem) : Work α :=
  .of fun d =>
    let (result, fs) := f d.fs
    (result, { d with fs := fs })

def performFiles {α : Type} (f : FileSystem → FileSystem.Outcome α) : Work α :=
  perform fun fs =>
    let (result, fs) := f fs
    (result.mapError .ofFault, fs)

def needDirectory (path : String) : Work Unit := do
  if !(← look (·.isDirectory path)) then performFiles (·.makeDirectories path)

def note (c : Call) : Work Unit := .of fun d => (.ok (), { d with calls := d.calls ++ [c] })

def start (t : Tools) (line : List String) (shell : Bool) : Work Int := do
  note { line := line, working := some (← look (·.workingPath)), shell := shell }
  perform fun fs =>
    let (result, fs) := t.run line fs
    (result.mapError .toolBroken, fs)

def startLine (t : Tools) (line : String) (shell : Bool) : Work Int := do
  match Command.words line with
  | .error f => throw (.words f)
  | .ok words => start t words shell

end Desk

def Tools.escaped (t : Tools) (line : String) : String :=
  if line.toList.contains '\\' && t.chosenFor == "Windows" then
    String.ofList (Text.asciiEscaped line.toList)
  else line

end DroidAudit
