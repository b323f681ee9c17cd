import DroidAudit.Observation

/-! Sessions: observers that are driven step by step. -/
namespace DroidAudit

/-- Files and manifest, what observers share, the observers, and the subject that notifies those
registered with it, by their places. -/
structure Session where
  fs : FileSystem
  manifest : Manifest := {}
  shared : Shared := {}
  observers : List Observer := []
  registered : List Nat := []

namespace Session

def surroundings (s : Session) : Surroundings := ⟨s.fs, s.manifest⟩

def observer? (s : Session) (i : Nat) : Option Observer := s.observers[i]?

def setObserver (s : Session) (i : Nat) (o : Observer) : Session :=
  { s with observers := s.observers.set i o }

abbrev Stepped := Session × Option Failure

def atObserver (s : Session) (i : Nat) (step : Observer → Stepped) : Stepped :=
  match s.observer? i with
  | some o => step o
  | none => (s, some (.noEntry (toString i)))

def apply (s : Session) (i : Nat) (u : Observer.Updated) : Stepped :=
  ({ s.setObserver i u.observer with shared := u.shared }, u.failure)

def update (s : Session) (i : Nat) (path : Option String) (callRun : Bool) : Stepped :=
  s.atObserver i fun o => s.apply i (o.update s.surroundings s.shared path callRun)

/-- Tells the observer at a place that a file is current, at a level of its own or above. Facts
of a deeper level are missing. -/
def updateAt (s : Session) (level : Level) (i : Nat) (path : Option String) (callRun : Bool) :
    Stepped :=
  s.atObserver i fun o =>
    let reaches : Bool :=
      match level, o.detector.level? with
      | .path, none => !path.any (!·.isEmpty)
      | _, none => false
      | .tree, some .text | .stream, some .text | .stream, some .tree => false
      | _, some _ => true
    if reaches then
      s.apply i (Observer.updateAt level o s.surroundings s.shared path callRun)
    else (s, some .unsupported)

def reset (s : Session) (i : Nat) : Stepped :=
  s.atObserver i fun o =>
    match o.reset s.shared with
    | .ok shared => ({ s with shared := shared }, none)
    | .error e => (s, some e)

def resetLevel (s : Session) (level : Level) : Session :=
  { s with shared := s.shared.clearLevel level }

def run (s : Session) (i : Nat) : Stepped :=
  s.atObserver i fun o =>
    let (o, e) := o.run s.surroundings s.shared
    (s.setObserver i o, e)

/-- Asks the observer at a place whether it would see nodes. -/
def mayRun (s : Session) (i : Nat) : Session × Except Failure Bool :=
  match s.observer? i with
  | none => (s, .error (.noEntry (toString i)))
  | some o =>
    let (o, answer) := o.mayRun s.surroundings s.shared
    (s.setObserver i o, answer)

/-- Shows the observer at a place the nodes of its own tree, if it would see them. The answer says
whether it did. -/
def feed (s : Session) (i : Nat) : Session × Except Failure Bool :=
  match s.mayRun i with
  | (s, .error e) => (s, .error e)
  | (s, .ok false) => (s, .ok false)
  | (s, .ok true) =>
    match s.observer? i with
    | none => (s, .ok false)
    | some o =>
      match o.tree s.shared with
      | none => (s, .error (.absent .items))
      | some tree =>
        match o.feed s.surroundings s.shared tree with
        | (o, none) => (s.setObserver i o, .ok true)
        | (o, some e) => (s.setObserver i o, .error e)

def checkCertificates (s : Session) (i : Nat) : Stepped :=
  s.atObserver i fun o =>
    match o.tree s.shared with
    | none => (s, some (.absent .nodes))
    | some tree =>
      let path := o.path s.shared
      let (nodes, whole) := tree.reached
      let found := (nodes.filter fun n => n.declaredMethod?.isSome).flatMap fun n =>
        CallDetector.emptyCheck path n ++ CallDetector.ignoredError path n
      (s.setObserver i { o with findings := o.findings ++ found },
        if whole then none else some .tooDeep)

def updateManifest (s : Session) (path : Option String) : Stepped :=
  let (m, e) := s.manifest.update s.fs path
  ({ s with manifest := m }, e)

def setFiles (s : Session) (i : Nat) (files : List String) : Stepped :=
  s.atObserver i fun o => (s.setObserver i { o with files := some files }, none)

def inject (s : Session) (i : Nat) (f : Finding) : Stepped :=
  s.atObserver i fun o => (s.setObserver i { o with findings := o.findings ++ [f] }, none)

def register (s : Session) (i : Nat) : Session := { s with registered := s.registered ++ [i] }

/-- Starts over with one registered observer for each detector. What levels hold stays. -/
def watch (s : Session) (detectors : List Detector) : Session :=
  { s with
    shared := s.shared.withoutDetectors
    observers := detectors.map fun d => { detector := d }
    registered := List.range detectors.length }

def unregister (s : Session) (i : Nat) : Stepped :=
  if s.registered.contains i then ({ s with registered := s.registered.erase i }, none)
  else (s, some .notRegistered)

/-- Does a step for each place in turn; the first failure ends the round. -/
def each (step : Session → Nat → Stepped) : List Nat → Session → Stepped
  | [], s => (s, none)
  | i :: rest, s =>
    match step s i with
    | (s, some e) => (s, some e)
    | (s, none) => each step rest s

/-- Tells all registered observers that a file is current, and lets them run. -/
def notify (s : Session) (path : Option String) : Stepped :=
  each (fun s i => s.update i path true) s.registered s

def resetRegistered (s : Session) : Stepped := each (fun s i => s.reset i) s.registered s

/-- Makes a file current for all observers and shows its nodes to those that want to see them. -/
def showFile (s : Session) (path : Option String) : Stepped :=
  match s.fs.textAt path with
  | .error e => (s, some e)
  | .ok text =>
    let shared :=
      { s.shared with
        path := { s.shared.path with path := some path }
        text := { s.shared.text with contents := some (some text) } }
    match Java.read text with
    | .error e => ({ s with shared := shared }, some (.source e))
    | .ok tree =>
      let shared := { shared with tree := { shared.tree with tree := some (some tree) } }
      let (observers, e) := showTree s.surroundings shared s.observers
      ({ s with shared := shared, observers := observers }, e)

end Session

end DroidAudit
