import DroidAudit.Session

/-! Scanning an app: its manifest, then its files one after the other. -/
namespace DroidAudit

/-- What a scan gives: the files it went through, what it found, and the failure that ended it, if
any. -/
structure ScanResult where
  files : List String
  findings : List Finding
  failure : Option Failure

namespace Scan

/-- The files of an app in order: a single source file, or everything below a directory. -/
def gather (fs : FileSystem) : Option String → Except Failure (List String)
  | none => .error (.absent .name)
  | some source =>
    if Path.isJavaFile source then .ok [source]
    else
      match fs.entry source with
      | .error c =>
        if c.isOfPath then .error (.badPath ⟨c, source⟩) else .ok []
      | .ok _ => .ok ((fs.files source).mergeSort Text.le)

/-- Runs detectors of manifests one after the other; the findings of one that fails are lost. -/
def runManifest (w : Surroundings) (files : List String) :
    List Detector → List Finding × Option Failure
  | [] => ([], none)
  | d :: rest =>
    match d.run w ⟨none, none, none⟩ (some files) [] with
    | (_, some e) => ([], some e)
    | (found, none) =>
      let (more, e) := runManifest w files rest
      (found ++ more, e)

def fileDetectors : List Detector :=
  (Category.all.filter (· != .manifest)).flatMap fun c => c.detectors.map (·.2)

def putStreams : List Observer → List Observer → List Observer
  | o :: rest, n :: shown =>
    if o.detector.level? == some .stream then n :: putStreams rest shown
    else o :: putStreams rest (n :: shown)
  | rest, _ => rest

/-- Goes through the files: all observers are notified, then shown the common tree, then reset. -/
def visit (s : Session) : List String → Session.Stepped
  | [] => (s, none)
  | file :: rest =>
    match s.notify (some file) with
    | (s, some e) => (s, some e)
    | (s, none) =>
      let streams := s.observers.filter fun o => o.detector.level? == some .stream
      match showTree s.surroundings s.shared streams with
      | (shown, some e) => ({ s with observers := putStreams s.observers shown }, some e)
      | (shown, none) =>
        let s := { s with observers := putStreams s.observers shown }
        match s.resetRegistered with
        | (s, some e) => (s, some e)
        | (s, none) => visit s rest

/-- Lets new observers of the detectors go through the files and collects what they found. A
failure ends the check, and nothing is collected. -/
def check (s : Session) (detectors : List Detector) (files : List String) :
    Session × List Finding × Option Failure :=
  match visit (s.watch detectors) files with
  | (s, some e) => (s, [], some e)
  | (s, none) => (s, s.observers.flatMap (·.findings), none)

/-- Scans the files of an app. What levels hold stays for the next scan; observers are made anew. -/
def run (s : Session) (manifest : Option String) (files : List String) :
    Session × ScanResult :=
  let (s, e) := s.updateManifest manifest
  match e with
  | some e => (s, ⟨files, [], some e⟩)
  | none =>
    let detectors := Category.manifest.detectors.map (·.2)
    let (found, e) :=
      if s.manifest.root.isSome then runManifest s.surroundings files detectors else ([], none)
    match e with
    | some e => (s, ⟨files, found, some e⟩)
    | none =>
      let (s, more, e) := check s fileDetectors files
      (s, ⟨files, found ++ more, e⟩)

end Scan

end DroidAudit
