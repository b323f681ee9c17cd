import DroidAudit.Detector.Basic
import DroidAudit.Detector.Pattern
import DroidAudit.Manifest

/-! Detectors that look at the manifest. -/
namespace DroidAudit.ManifestDetector

def backupNotice : Notice where
  category := "manifest"
  name := "Backup is allowed in manifest"
  severity := .warning
  description :=
    "Backups enabled: Potential for data theft via local attacks via adb backup, if the device " ++
    "has USB debugging enabled. More info: " ++
    "http://developer.android.com/reference/android/R.attr.html#allowBackup"

/-- Every application element that says something on backups, whatever it says. -/
def allowBackup (m : Manifest) : List Finding :=
  match m.root with
  | none => []
  | some root =>
    if root.isTooDeep then []
    else
      ((root.allWritten "application").filter fun e =>
        (e.attribute? "android:allowBackup").isSome).map fun _ => backupNotice.about m.path none

def keyNotice : Notice where
  category := "manifest"
  name := "Potential API Key found"
  severity := .info
  description :=
    "Please confirm and investigate for potential API keys to determine severity."

/-- The elements of a document that is read anew; one that cannot be read has none. -/
def readAnew (fs : FileSystem) (m : Manifest) (elements : Xml.Element → List Xml.Element) :
    List Xml.Element :=
  match Manifest.readRoot fs .tree m.path with
  | .error _ => []
  | .ok root => elements root

/-- Every value below an application that names a key. An element below several applications counts
for each. -/
def namedKeys (fs : FileSystem) (m : Manifest) : List Finding :=
  let settings := readAnew fs m fun root =>
    (root.descendantsPlain "application").flatMap (·.descendantsPlain "meta-data")
  (settings.filter fun e => (e.plainAttribute? "value").any fun v => Pattern.namesKey v.toList).map
    fun _ => keyNotice.about m.path none

def debuggableNotice : Notice where
  category := "manifest"
  name := "Manifest is manually set to debug"
  severity := .vulnerability
  description :=
    "The android:debuggable flag is manually set to true in the AndroidManifest.xml. This will " ++
    "cause your application to be debuggable in production builds and can result in data " ++
    "leakage and other security issues. It is not necessary to set the android:debuggable flag " ++
    "in the manifest, it will be set appropriately automatically by the tools. More info: " ++
    "http://developer.android.com/guide/topics/manifest/application-element.html#debug"

def debuggable (fs : FileSystem) (m : Manifest) : List Finding :=
  ((readAnew fs m (·.descendantsPlain "application")).filter fun e =>
    (e.plainAttribute? "android:debuggable").any fun v => Text.lower v == "true").map
      fun _ => debuggableNotice.about m.path none

def pathNotice : Notice where
  category := "manifest"
  name := "android:path tag used"
  severity := .warning
  description :=
    "android:path means that the permission applies to the exact path declared in " ++
    "android:path. This expression does not protect the sub-directories."

def filterData (application : Xml.Element) : List Xml.Element :=
  (application.descendantsPlain "intent-filter").flatMap (·.childrenPlain "data")

def exactPath (fs : FileSystem) (m : Manifest) : List Finding :=
  let data := readAnew fs m fun root => (root.descendantsPlain "application").flatMap filterData
  (data.filter fun e => (e.plainAttribute? "android:path").any (!·.isEmpty)).map
    fun _ => pathNotice.about m.path none

def signatureNotice : Notice where
  category := "manifest"
  name := "Custom permissions are enabled in the manifest"
  severity := .warning
  description :=
    "This permission can be obtained by malicious apps installed prior to this one, without the " ++
    "proper signature. Applicable to Android Devices prior to L (Lollipop). More info: " ++
    "https://github.com/commonsguy/cwac-security/blob/master/PERMS.md"

def dangerousNotice : Notice where
  category := "manifest"
  name := "Custom permissions are enabled in the manifest"
  severity := .info
  description :=
    "This permission can give a requesting application access to private user data or control " ++
    "over the device that can negatively impact the user."

/-- What is wrong with a permission of some protection; signatures protect from level 21 on. -/
def permissionNotice? (minSdk : Int) (protection : String) : Option Notice :=
  if ["signature", "signatureOrSystem"].contains protection && minSdk < 21 then
    some signatureNotice
  else if protection == "dangerous" then some dangerousNotice
  else none

def customPermissions (fs : FileSystem) (m : Manifest) : List Finding :=
  (readAnew fs m (·.descendantsPlain "permission")).filterMap fun e => do
    let notice ← permissionNotice? m.minSdk (← e.plainAttribute? "android:protectionLevel")
    return notice.about m.path none

def tapJackingNotice : Notice where
  category := "manifest"
  name := "Tap Jacking possible"
  severity := .vulnerability
  description :=
    "Since the minSdkVersion is less than 9, it is likely this application is vulnerable to " ++
    "TapJacking. QARK made no attempt to confirm, as the protection would have to be custom " ++
    "code, which is difficult for QARK to examine and understand properly. This vulnerability " ++
    "allows a malicious application to lay on top of this app, while letting the key strokes " ++
    "pass through to the application below. This can cause users to take unwanted actions, " ++
    "within the victim application, similar to Clickjacking on websites. Please select the " ++
    "appropriate options in the exploitation menus to verify manually using QARK's exploit " ++
    "APK. Note: The QARK proof-of-concept is transparent, but in real-world attacks, it would " ++
    "likely not be. This is done solely to aid in testing. For more information: " ++
    "https://media.blackhat.com/ad-12/Niemietz/bh-ad-12-androidmarcus_niemietz-WP.pdf"

def tapJacking (m : Manifest) : List Finding :=
  if m.minSdk < 9 then [tapJackingNotice.about none none] else []

def singleTaskNotice : Notice where
  category := "manifest"
  name := "launchMode=singleTask found"
  severity := .warning
  description :=
    "This results in AMS either resuming the earlier activity or loads it in a task with same " ++
    "affinity or the activity is started as a new task. This may result in Task Poisoning. " ++
    "https://www.usenix.org/system/files/conference/usenixsecurity15/sec15-paper-ren-chuangang.pdf"

def reparentingNotice : Notice where
  category := "manifest"
  name := "android:allowTaskReparenting='true' found"
  severity := .warning
  description :=
    "This allows an existing activity to be reparented to a new native task i.e task having " ++
    "the same affinity as the activity. This may lead to UI spoofing attack on this " ++
    "application." ++
    "https://www.usenix.org/system/files/conference/usenixsecurity15/sec15-paper-ren-chuangang.pdf"

/-- The lines of the manifest's text that hold a word, counted from zero. If the bytes are faulty,
the lines in front of the fault are still reported. -/
def linesWith (fs : FileSystem) (m : Manifest) (word : String) (n : Notice) :
    List Finding × Option Failure :=
  match fs.bytesAt m.path with
  | .error e => ([], some e)
  | .ok bytes =>
    let (lines, fault) := Text.utf8Lines bytes
    let found := (Text.numbered 0 lines).filter fun (_, line) => Text.occurs word.toList line
    (found.map fun (number, _) => { n.about m.path none with line := .int number },
      fault.map .undecodable)

end DroidAudit.ManifestDetector
