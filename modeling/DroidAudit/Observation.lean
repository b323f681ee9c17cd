import DroidAudit.Detector.Run

/-! What is observed of the current file, and who holds it. A fact about the file (its path, its
text, its tree) can be held by an observer itself, by all observers of its detector, or by all
observers that look at files at some level; the nearest holder counts. -/
namespace DroidAudit

inductive Level
  | path
  | text
  | tree
  | stream
  deriving Repr, DecidableEq

/-- Facts about the current file; `none` where a holder says nothing. The inner `none` says that
the fact is missing. -/
structure Facts where
  path : Option (Option String) := none
  isSet : Option Bool := none
  contents : Option (Option String) := none
  readable : Option Bool := none
  tree : Option (Option Java.Node) := none
  parseable : Option Bool := none

namespace Facts

/-- Facts as before any file was seen, as far as a level knows them. -/
def cleared (f : Facts) : Level → Facts
  | .path => { f with path := some none, isSet := some false }
  | .text =>
    { f with path := some none, isSet := some false, contents := some none, readable := some true }
  | .tree | .stream =>
    { f with
      path := some none, isSet := some false, contents := some none, readable := some true,
      tree := some none, parseable := some true }

end Facts

structure Shared where
  path : Facts := { path := some none, isSet := some false }
  text : Facts := { contents := some none, readable := some true }
  tree : Facts := { tree := some none, parseable := some true }
  stream : Facts := {}
  detectors : List (Detector × Facts) := []

namespace Shared

def ofDetector (s : Shared) (d : Detector) : Facts :=
  ((s.detectors.find? (·.1 == d)).map (·.2)).getD {}

def setDetector (s : Shared) (d : Detector) (f : Facts) : Shared :=
  { s with detectors := (d, f) :: s.detectors.filter (·.1 != d) }

def clearLevel (s : Shared) : Level → Shared
  | .path => { s with path := s.path.cleared .path }
  | .text => { s with text := s.text.cleared .text }
  | .tree => { s with tree := s.tree.cleared .tree }
  | .stream => { s with stream := s.stream.cleared .stream }

def withoutDetectors (s : Shared) : Shared := { s with detectors := [] }

end Shared

/-- A detector at work: the facts it holds itself, what it has found, and the files of the app if
they were handed to it. -/
structure Observer where
  detector : Detector
  facts : Facts := {}
  findings : List Finding := []
  files : Option (List String) := none

namespace Detector

def level? (d : Detector) : Option Level :=
  match d.family with
  | .manifest => none
  | .text => some .text
  | .tree => some .tree
  | .stream _ => some .stream

end Detector

namespace Observer

def holders (o : Observer) (s : Shared) : List Facts :=
  let own := [o.facts, s.ofDetector o.detector]
  match o.detector.level? with
  | some .stream => own ++ [s.stream, s.tree, s.text, s.path]
  | some .tree => own ++ [s.tree, s.text, s.path]
  | some .text => own ++ [s.text, s.path]
  | _ => own ++ [s.path]

def path (o : Observer) (s : Shared) : Option String :=
  ((o.holders s).findSome? (·.path)).getD none

def isSet (o : Observer) (s : Shared) : Bool := ((o.holders s).findSome? (·.isSet)).getD false

def contents (o : Observer) (s : Shared) : Option String :=
  ((o.holders s).findSome? (·.contents)).getD none

def readable (o : Observer) (s : Shared) : Bool :=
  ((o.holders s).findSome? (·.readable)).getD true

def tree (o : Observer) (s : Shared) : Option Java.Node :=
  ((o.holders s).findSome? (·.tree)).getD none

def parseable (o : Observer) (s : Shared) : Bool :=
  ((o.holders s).findSome? (·.parseable)).getD true

def sight (o : Observer) (s : Shared) : Sight := ⟨o.path s, o.contents s, o.tree s⟩

def run (o : Observer) (w : Surroundings) (s : Shared) : Observer × Option Failure :=
  let (findings, e) := o.detector.run w (o.sight s) o.files o.findings
  ({ o with findings := findings }, e)

structure Updated where
  observer : Observer
  shared : Shared
  failure : Option Failure := none

def runIf (o : Observer) (w : Surroundings) (s : Shared) (wanted : Bool) : Updated :=
  if wanted then
    let (o, e) := o.run w s
    ⟨o, s, e⟩
  else ⟨o, s, none⟩

/-- Tells an observer the current path. The path is set for all observers at once, and only if it
is not set yet. -/
def updatePath (o : Observer) (w : Surroundings) (s : Shared) (path : Option String)
    (callRun : Bool) : Updated :=
  match path.filter (!·.isEmpty) with
  | none => ⟨o, { s with path := { s.path with path := some none } }, none⟩
  | some p =>
    let s :=
      if o.isSet s then s
      else { s with path := { s.path with path := some (some p), isSet := some true } }
    o.runIf w s callRun

/-- Reads the text of the path that the observer sees, unless it has a text. Text that cannot be
read makes the observer unreadable. -/
def updateText (o : Observer) (w : Surroundings) (s : Shared) (path : Option String)
    (callRun : Bool) : Updated :=
  if !o.readable s then ⟨o, s, none⟩
  else if (o.contents s).isSome then o.runIf w s (callRun && (o.contents s).any (!·.isEmpty))
  else
    let u := o.updatePath w s path false
    let o := u.observer
    let s := u.shared
    match w.fs.textAt (o.path s) with
    | .ok text =>
      let o := { o with facts := { o.facts with contents := some (some text) } }
      o.runIf w s (callRun && !text.isEmpty)
    | .error (.file _) | .error (.undecodable _) =>
      let facts := { o.facts with readable := some false, contents := some none }
      ⟨{ o with facts := facts }, s, none⟩
    | .error e => ⟨o, s, some e⟩

/-- Runs a detector of trees; a failure of the run is passed over. -/
def runOnTree (o : Observer) (w : Surroundings) (s : Shared) (callRun : Bool) : Updated :=
  if callRun && (o.tree s).isSome then ⟨(o.run w s).1, s, none⟩ else ⟨o, s, none⟩

/-- Reads the tree of a Java file, unless the observer has one. A text whose words are misplaced
makes it unparseable. -/
def updateTree (o : Observer) (w : Surroundings) (s : Shared) (path : Option String)
    (callRun : Bool) : Updated :=
  if !o.parseable s then ⟨o, s, none⟩
  else if (o.tree s).isSome then o.runOnTree w s callRun
  else
    match path with
    | none => ⟨o, s, some (.absent .name)⟩
    | some p =>
      if !Path.isJavaFile p then o.runOnTree w s callRun
      else
        let u := o.updateText w s path false
        match u.failure, (u.observer.contents u.shared).filter (!·.isEmpty) with
        | some e, _ => { u with failure := some e }
        | none, none => u.observer.runOnTree w u.shared callRun
        | none, some text =>
          match Java.read text with
          | .ok tree =>
            let facts := { u.observer.facts with tree := some (some tree) }
            runOnTree { u.observer with facts := facts } w u.shared callRun
          | .error e =>
            if e.isPassedOver then
              let facts := { u.observer.facts with tree := some none, parseable := some false }
              ⟨{ u.observer with facts := facts }, u.shared, none⟩
            else { u with failure := some (.source e) }

def updateAt (level : Level) (o : Observer) (w : Surroundings) (s : Shared)
    (path : Option String) (callRun : Bool) : Updated :=
  match level with
  | .path => o.updatePath w s path callRun
  | .text => o.updateText w s path callRun
  | .tree | .stream => o.updateTree w s path callRun

/-- Tells an observer that a file is current. Detectors of manifests cannot be told. -/
def update (o : Observer) (w : Surroundings) (s : Shared) (path : Option String)
    (callRun : Bool) : Updated :=
  match o.detector.level? with
  | some level => updateAt level o w s path callRun
  | none => ⟨o, s, some .unsupported⟩

/-- Clears what all observers of the same detector hold together. What an observer holds itself
stays. -/
def reset (o : Observer) (s : Shared) : Except Failure Shared :=
  match o.detector.level? with
  | some level => .ok (s.setDetector o.detector ((s.ofDetector o.detector).cleared level))
  | none => .error .unsupported

/-- Whether the observer would see nodes now. Only detectors of nodes can be asked. -/
def mayRun (o : Observer) (w : Surroundings) (s : Shared) :
    Observer × Except Failure Bool :=
  match o.detector.family with
  | .stream _ =>
    match o.detector.mayRun w (o.sight s) with
    | .ok (b, found) => ({ o with findings := o.findings ++ found }, .ok b)
    | .error e => (o, .error e)
  | _ => (o, .error .unsupported)

def see (o : Observer) (w : Surroundings) (s : Shared) (n : Java.Node) : Observer :=
  { o with findings := o.findings ++ o.detector.see w (o.sight s) n }

def feed (o : Observer) (w : Surroundings) (s : Shared) (tree : Java.Node) :
    Observer × Option Failure :=
  let (found, e) := o.detector.seeAll w (o.sight s) tree
  ({ o with findings := o.findings ++ found }, e)

end Observer

/-- Asks observers in turn whether they would see nodes; those that would are started. The first
one that fails stops the round. Gives the observers and the places of the started ones. -/
def startAll (w : Surroundings) (s : Shared) :
    List Observer → List (Observer × Bool) × Option Failure
  | [] => ([], none)
  | o :: rest =>
    let untouched := rest.map fun o => (o, false)
    match o.mayRun w s with
    | (o, .error e) => ((o, false) :: untouched, some e)
    | (o, .ok false) =>
      let (rest, e) := startAll w s rest
      ((o, false) :: rest, e)
    | (o, .ok true) =>
      if o.detector.family == .stream true then ((o, false) :: untouched, some Detector.cannotStart)
      else
        let (rest, e) := startAll w s rest
        ((o, true) :: rest, e)

def showNode (w : Surroundings) (s : Shared) (started : List (Observer × Bool)) (n : Java.Node) :
    List (Observer × Bool) :=
  started.map fun (o, wants) => (if wants then o.see w s n else o, wants)

/-- Goes once through the tree that is held for all observers of trees, and shows each node to every
observer that was started. -/
def showTree (w : Surroundings) (s : Shared) (observers : List Observer) :
    List Observer × Option Failure :=
  match s.tree.tree.getD none with
  | none => (observers, none)
  | some tree =>
    match startAll w s observers with
    | (started, some e) => (started.map (·.1), some e)
    | (started, none) =>
      let (nodes, whole) := tree.reached
      ((nodes.foldl (showNode w s) started).map (·.1), if whole then none else some .tooDeep)

end DroidAudit
