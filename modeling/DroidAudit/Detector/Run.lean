import DroidAudit.Detector.Exported
import DroidAudit.Detector.Manifest
import DroidAudit.Detector.WebView

/-! Running a detector. -/
namespace DroidAudit

structure Surroundings where
  fs : FileSystem
  manifest : Manifest

namespace Detector
open Java

/-- Whether a detector of nodes wants to see the nodes of the file, and what it reports by just
being asked. -/
def mayRun (d : Detector) (w : Surroundings) (s : Sight) :
    Except Failure (Bool × List Finding) :=
  match d with
  | sentBroadcast =>
    match s.contents with
    | none => .error (.absent .text)
    | some contents => .ok (Text.containsAny contents CallDetector.broadcastMethods, [])
  | fixedSeed =>
    match s.tree with
    | none => .error (.absent .imports)
    | some tree => .ok (tree.imports.contains "java.security.SecureRandom", [])
  | pendingIntent =>
    match s.contents with
    | none => .error (.absent .text)
    | some contents =>
      if !Text.contains contents "new Intent" ||
          !Text.containsAny contents CallDetector.pendingMethods then .ok (false, [])
      else
        match s.tree with
        | none => .error (.absent .imports)
        | some tree => .ok (tree.imports.any (Text.contains · "PendingIntent"), [])
  | scriptInterface => .ok (w.manifest.minSdk ≤ 16, [])
  | universalAccess =>
    if w.manifest.minSdk ≤ 15 then do
      let found ← WebViewDetector.defaults s.tree WebViewDetector.universalMethod
        WebViewDetector.universalNotice s.path
      .ok (false, found)
    else .ok (true, [])
  | _ => .ok (true, [])

def see (d : Detector) (w : Surroundings) (s : Sight) (n : Node) : List Finding :=
  let minSdk := w.manifest.minSdk
  match d with
  | dynamicReceiver => CallDetector.dynamicReceiver minSdk s.path n
  | sentBroadcast =>
    CallDetector.sentBroadcast minSdk (s.tree.any CallDetector.importsLocalBroadcasts) s.path n
  | logging => CallDetector.logging s.path n
  | externalStorage => CallDetector.externalStorage s.path n
  | insecureFunctions => CallDetector.insecureFunctions s.path n
  | ecbCipher => CallDetector.ecbCipher s.path n
  | rsaCipher => CallDetector.rsaCipher s.path n
  | fixedSeed => CallDetector.fixedSeed s.path n
  | pendingIntent => CallDetector.pendingIntent s.path n
  | certificates => CallDetector.certificates s.path n
  | hostnames => CallDetector.hostnames s.path n
  | scriptInterface =>
    WebViewDetector.ifCall (n.isCallOf "addJavascriptInterface" 2)
      WebViewDetector.interfaceNotice s.path n
  | scriptEnabled =>
    WebViewDetector.ifCall (n.isCallWith "setJavaScriptEnabled" "true")
      WebViewDetector.scriptNotice s.path n
  | baseUrl =>
    WebViewDetector.ifCall (n.isCallOf "loadDataWithBaseURL" 5)
      WebViewDetector.baseUrlNotice s.path n
  | remoteDebugging =>
    WebViewDetector.ifCall (n.isCallWith "setWebContentsDebuggingEnabled" "true")
      WebViewDetector.debuggingNotice s.path n
  | universalAccess =>
    WebViewDetector.ifCall (n.isCallWith WebViewDetector.universalMethod "true")
      WebViewDetector.universalNotice s.path n
  | domStorage =>
    WebViewDetector.ifCall (n.isCallWith "setDomStorageEnabled" "true")
      WebViewDetector.storageNotice s.path n
  | _ => []

def seeAll (d : Detector) (w : Surroundings) (s : Sight) (tree : Node) :
    List Finding × Option Failure :=
  let (nodes, whole) := tree.reached
  (nodes.flatMap (d.see w s), if whole then none else some .tooDeep)

def cannotStart : Failure := .unsuited

def runStream (d : Detector) (waits : Bool) (w : Surroundings) (s : Sight) :
    List Finding × Option Failure :=
  match d.mayRun w s with
  | .error e => ([], some e)
  | .ok (false, found) => (found, none)
  | .ok (true, found) =>
    if waits then (found, some cannotStart)
    else
      match s.tree with
      | none => (found, some (.absent .items))
      | some tree =>
        let (more, e) := d.seeAll w s tree
        (found ++ more, e)

def plainly : Except Failure (List Finding) → List Finding × Option Failure
  | .ok found => (found, none)
  | .error e => ([], some e)

/-- Runs a detector: `known` holds its earlier findings and `files` the files of the app. The
result holds all findings, and the failure that ended the run, if any. -/
def run (d : Detector) (w : Surroundings) (s : Sight) (files : Option (List String))
    (known : List Finding) : List Finding × Option Failure :=
  let adding : List Finding × Option Failure → List Finding × Option Failure
    | (found, e) => (known ++ found, e)
  match d with
  | allowBackup => (known ++ ManifestDetector.allowBackup w.manifest, none)
  | androidPath => (known ++ ManifestDetector.exactPath w.fs w.manifest, none)
  | customPermissions => (known ++ ManifestDetector.customPermissions w.fs w.manifest, none)
  | debuggable => (known ++ ManifestDetector.debuggable w.fs w.manifest, none)
  | manifestKeys => (known ++ ManifestDetector.namedKeys w.fs w.manifest, none)
  | exportedTags => ExportedDetector.run w.fs w.manifest files known
  | minSdk => (known ++ ManifestDetector.tapJacking w.manifest, none)
  | singleTask =>
    adding (ManifestDetector.linesWith w.fs w.manifest "android:launchMode=\"singleTask\""
      ManifestDetector.singleTaskNotice)
  | taskReparenting =>
    adding (ManifestDetector.linesWith w.fs w.manifest "android:allowTaskReparenting=\"true\""
      ManifestDetector.reparentingNotice)
  | contentKeys => adding (plainly (ContentDetector.keys s))
  | filePermissions => (known ++ ContentDetector.filePermissions w.fs s, none)
  | plainUrl => adding (plainly (ContentDetector.plainUrls s))
  | phoneIdentifier => adding (plainly (ContentDetector.phoneIdentifier s))
  | privateKeys => (known ++ ContentDetector.privateKeys w.fs s, none)
  | permissionChecks => adding (plainly (ContentDetector.permissionChecks s))
  | taskAffinity => adding (plainly (ContentDetector.taskAffinity s))
  | contentAccess =>
    adding (plainly (WebViewDetector.defaults s.tree "setAllowContentAccess"
      WebViewDetector.contentNotice s.path))
  | fileAccess =>
    adding (plainly (WebViewDetector.defaults s.tree "setAllowFileAccess"
      WebViewDetector.fileNotice s.path))
  | d =>
    match d.family with
    | .stream waits => adding (d.runStream waits w s)
    | _ => (known, none)

end Detector
end DroidAudit
