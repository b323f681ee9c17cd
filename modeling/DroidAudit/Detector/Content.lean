import DroidAudit.Detector.Basic
import DroidAudit.Detector.Pattern

/-! Detectors that look at the text of a file. -/
namespace DroidAudit

/-- What a detector sees of the current file: its path, its text and its tree, as far as known. -/
structure Sight where
  path : Option String
  contents : Option String
  tree : Option Java.Node

namespace ContentDetector

def keyNotice : Notice where
  category := "file"
  name := "Potential API Key found"
  severity := .info
  description := "Please confirm and investigate the API key to determine its severity."

def binaryExtensions : List String := [".apk", ".dex", ".png", ".jar"]

def onLine (n : Notice) (path : Option String) (number : Nat) : Finding :=
  { n.about path none with line := .tuple [.int number, .int 0] }

/-- Every word that looks like a key and holds no special character. -/
def keys (s : Sight) : Except Failure (List Finding) :=
  match s.path with
  | none => .error (.absent .ending)
  | some path =>
    if binaryExtensions.any (Text.hasSuffix path) then .ok []
    else
      match s.contents with
      | none => .error (.absent .contents)
      | some contents =>
        .ok ((Text.numbered 0 (Text.lines contents.toList)).flatMap fun (number, line) =>
          ((Text.words line).filter fun word =>
            Pattern.looksLikeKey word && !Pattern.hasSpecialCharacter word).map fun _ =>
              onLine keyNotice s.path number)

def readableNotice : Notice where
  category := "file"
  name := "World readable file"
  severity := .warning
  description :=
    "World readable file found. Any application or file browser can access and read this file"

def writeableNotice : Notice where
  category := "file"
  name := "World writeable file"
  severity := .warning
  description :=
    "World writeable file found. Any application or file browser can write to this file"

def ifSomeLine (fs : FileSystem) (s : Sight) (p : LinePattern) (n : Notice) : List Finding :=
  if (p.linesIn fs s.path (some .utf8)).isEmpty then [] else [n.about s.path none]

def filePermissions (fs : FileSystem) (s : Sight) : List Finding :=
  ifSomeLine fs s .worldReadable readableNotice ++ ifSomeLine fs s .worldWriteable writeableNotice

def urlNotice (url : String) : Notice where
  category := "file"
  name := "Hardcoded HTTP url found"
  severity := .info
  description :=
    "Application contains hardcoded HTTP url: " ++ url ++
      ", unless HSTS is implemented, this request can be intercepted and modified by a " ++
      "man-in-the-middle attack."

def plainUrls (s : Sight) : Except Failure (List Finding) :=
  match s.path with
  | none => .error (.absent .name)
  | some path =>
    if !Path.isJavaFile path then .ok []
    else
      match s.contents with
      | none => .error (.absent .contents)
      | some contents =>
        .ok ((Text.numbered 0 (Text.lines contents.toList)).filterMap fun (number, line) =>
          (Pattern.plainUrl? line).map fun url => onLine (urlNotice url) s.path number)

def phoneNotice : Notice where
  category := "file"
  name := "Phone number or IMEI detected"
  severity := .info
  description :=
    "Access of phone number or IMEI, is detected. Avoid storing or transmitting this data."

/-- A phone manager that is asked for the number or the identifier of the phone, in one expression
or through a variable; each declared variable counts. -/
def phoneIdentifier (s : Sight) : Except Failure (List Finding) :=
  match s.contents with
  | none => .error (.absent .text)
  | some contents =>
    let cs := contents.toList
    if !Text.occurs "android.telephony.TelephonyManager".toList cs then .ok []
    else if Pattern.hasInlinePhoneCall cs then .ok [phoneNotice.about s.path none]
    else
      .ok (((Pattern.phoneVariables 0 cs).filter fun name => Pattern.asksPhone name cs).map fun _ =>
        phoneNotice.about s.path none)

def privateKeyNotice : Notice where
  category := "crypto"
  name := "Encryption keys are packaged with the application"
  severity := .vulnerability
  description :=
    "A private key may be embedded in your application in the following file:"

def privateKeys (fs : FileSystem) (s : Sight) : List Finding :=
  ifSomeLine fs s .privateKey privateKeyNotice

def permissionNotice (used recommended : String) : Notice where
  category := "manifest"
  name := "Potentially vulnerable check permission function called"
  severity := .warning
  description :=
    "Be careful with use of " ++ used ++
      " permission function\nApp maybe vulnerable to Privilege escalation or Confused Deputy " ++
      "Attack. This function can grant access to malicious application, lacking the appropriate " ++
      "permission, by assuming your applications permissions. This means a malicious " ++
      "application, without appropriate permissions, can bypass its permission check by using " ++
      "your applicationpermission to get access to otherwise denied resources. Use - " ++
      recommended ++
      "CallingPermission instead. Reference: " ++
      "https://developer.android.com/reference/android/content/Context.html\n"

def permissionChecks (s : Sight) : Except Failure (List Finding) :=
  match s.tree with
  | none => .error (.absent .imports)
  | some tree =>
    if !tree.imports.any (Text.contains · "Context") then .ok []
    else
      match s.contents with
      | none => .error (.absent .text)
      | some contents =>
        let checks := ["checkCallingOrSelfPermission", "checkCallingOrSelfUriPermission",
          "checkPermission"]
        let enforces := ["enforceCallingOrSelfPermission", "enforceCallingOrSelfUriPermission",
          "enforcePermission"]
        let report (words : List String) (n : Notice) : List Finding :=
          if Text.containsAny contents words then [n.about s.path none] else []
        .ok (report checks (permissionNotice "Check" "check") ++
          report enforces (permissionNotice "Enforce" "enforce"))

def taskNotice (kind : String) : Notice where
  category := "generic"
  name := "Potential task hijacking"
  severity := .info
  description :=
    "FLAG_ACTIVITY_" ++ kind ++
      "_TASK - intent flag is set. This results in activity being loaded as a part of a new " ++
      "task. This can be abused in the task hijacking attack. Reference: " ++
      "https://www.usenix.org/system/files/conference/usenixsecurity15/" ++
      "sec15-paper-ren-chuangang.pdf"

/-- Flags that start an activity in a new task, in a file that imports an intent. -/
def taskAffinity (s : Sight) : Except Failure (List Finding) :=
  match s.tree with
  | none => .error (.absent .imports)
  | some tree =>
    if !tree.imports.any (Text.contains · "Intent") then .ok []
    else
      match s.contents with
      | none => .error (.absent .text)
      | some contents =>
        if Text.contains contents "FLAG_ACTIVITY_NEW_TASK" then
          .ok [(taskNotice "NEW").about s.path none]
        else if Text.contains contents "FLAG_ACTIVITY_MULTIPLE_TASK" then
          .ok [(taskNotice "MULTIPLE").about s.path none]
        else .ok []

end ContentDetector
end DroidAudit
