import DroidAudit.Detector.Call
import DroidAudit.Manifest

/-! Components that other apps can reach. Each is reported from the manifest; then the source files
are searched for the extras that the component reads. -/
namespace DroidAudit.ExportedDetector

def tags : List (String × Component) :=
  [("activity", .activity), ("activity-alias", .activity), ("service", .service),
   ("receiver", .receiver), ("provider", .provider)]

/-- The methods through which a component is entered, by the word for its kind. -/
def entryMethods : String → Option (List String)
  | "activity" | "activity-alias" => some ["onCreate", "onStart"]
  | "receiver" | "provider" => some ["onReceive"]
  | "service" => some ["onCreate", "onBind", "onStartCommand", "onHandleIntent"]
  | _ => none

def extraMethods : List String :=
  ["getExtras", "getStringExtra", "getIntExtra", "getIntArrayExtra", "getFloatExtra",
   "getFloatArrayExtra", "getDoubleExtra", "getDoubleArrayExtra", "getCharExtra",
   "getCharArrayExtra", "getByteExtra", "getByteArrayExtra", "getBundleExtra", "getBooleanExtra",
   "getBooleanArrayExtra", "getCharSequenceArrayExtra", "getCharSequenceArrayListExtra",
   "getCharSequenceExtra", "getIntegerArrayListExtra", "getLongArrayExtra", "getLongExtra",
   "getParcelableArrayExtra", "getParcelableArrayListExtra", "getParcelableExtra",
   "getSerializableExtra", "getShortArrayExtra", "getShortExtra", "getStringArrayExtra",
   "getStringArrayListExtra", "getString", "getInt"]

/-- The names of broadcasts that only the system sends, by what they begin with. -/
def protectedNames : List (String × List String) :=
  [("android.intent.action.",
     ["SCREEN_OFF", "SCREEN_ON", "USER_PRESENT", "TIME_TICK", "TIMEZONE_CHANGED", "BOOT_COMPLETED",
      "PACKAGE_INSTALL", "PACKAGE_ADDED", "PACKAGE_REPLACED", "MY_PACKAGE_REPLACED",
      "PACKAGE_REMOVED", "PACKAGE_FULLY_REMOVED", "PACKAGE_CHANGED", "PACKAGE_RESTARTED",
      "PACKAGE_DATA_CLEARED", "PACKAGE_FIRST_LAUNCH", "PACKAGE_NEEDS_VERIFICATION",
      "PACKAGE_VERIFIED", "UID_REMOVED", "QUERY_PACKAGE_RESTART", "CONFIGURATION_CHANGED",
      "LOCALE_CHANGED", "BATTERY_CHANGED", "BATTERY_LOW", "BATTERY_OKAY", "ACTION_POWER_CONNECTED",
      "ACTION_POWER_DISCONNECTED", "ACTION_SHUTDOWN", "DEVICE_STORAGE_LOW", "DEVICE_STORAGE_OK",
      "DEVICE_STORAGE_FULL", "DEVICE_STORAGE_NOT_FULL", "NEW_OUTGOING_CALL", "REBOOT",
      "DOCK_EVENT", "MASTER_CLEAR_NOTIFICATION", "USER_ADDED", "USER_REMOVED", "USER_STOPPED",
      "USER_BACKGROUND", "USER_FOREGROUND", "USER_SWITCHED", "HEADSET_PLUG",
      "ANALOG_AUDIO_DOCK_PLUG", "DIGITAL_AUDIO_DOCK_PLUG", "HDMI_AUDIO_PLUG",
      "USB_AUDIO_ACCESSORY_PLUG", "USB_AUDIO_DEVICE_PLUG", "CLEAR_DNS_CACHE", "PROXY_CHANGE",
      "DREAMING_STARTED", "DREAMING_STOPPED", "ANY_DATA_STATE", "EXTERNAL_APPLICATIONS_AVAILABLE",
      "EXTERNAL_APPLICATIONS_UNAVAILABLE", "AIRPLANE_MODE", "ADVANCED_SETTINGS",
      "BUGREPORT_FINISHED", "ACTION_IDLE_MAINTENANCE_START", "ACTION_IDLE_MAINTENANCE_END",
      "SERVICE_STATE", "RADIO_TECHNOLOGY", "EMERGENCY_CALLBACK_MODE_CHANGED", "SIG_STR",
      "DATA_CONNECTION_FAILED", "SIM_STATE_CHANGED", "NETWORK_SET_TIME", "NETWORK_SET_TIMEZONE",
      "ACTION_SHOW_NOTICE_ECM_BLOCK_OTHERS", "ACTION_MDN_STATE_CHANGED"]),
   ("android.app.action.",
     ["ENTER_CAR_MODE", "EXIT_CAR_MODE", "ENTER_DESK_MODE", "EXIT_DESK_MODE"]),
   ("android.appwidget.action.",
     ["APPWIDGET_UPDATE_OPTIONS", "APPWIDGET_DELETED", "APPWIDGET_DISABLED", "APPWIDGET_ENABLED"]),
   ("android.backup.intent.", ["RUN", "CLEAR", "INIT"]),
   ("android.bluetooth.adapter.action.",
     ["STATE_CHANGED", "SCAN_MODE_CHANGED", "DISCOVERY_STARTED", "DISCOVERY_FINISHED",
      "LOCAL_NAME_CHANGED", "CONNECTION_STATE_CHANGED"]),
   ("android.bluetooth.device.action.",
     ["FOUND", "DISAPPEARED", "CLASS_CHANGED", "ACL_CONNECTED", "ACL_DISCONNECT_REQUESTED",
      "ACL_DISCONNECTED", "NAME_CHANGED", "BOND_STATE_CHANGED", "NAME_FAILED", "PAIRING_REQUEST",
      "PAIRING_CANCEL", "CONNECTION_ACCESS_REPLY"]),
   ("android.bluetooth.headset.profile.action.",
     ["CONNECTION_STATE_CHANGED", "AUDIO_STATE_CHANGED"]),
   ("android.bluetooth.headset.action.", ["VENDOR_SPECIFIC_HEADSET_EVENT"]),
   ("android.bluetooth.a2dp.profile.action.",
     ["CONNECTION_STATE_CHANGED", "PLAYING_STATE_CHANGED"]),
   ("android.bluetooth.input.profile.action.", ["CONNECTION_STATE_CHANGED"]),
   ("android.bluetooth.pan.profile.action.", ["CONNECTION_STATE_CHANGED"]),
   ("android.hardware.display.action.", ["WIFI_DISPLAY_STATUS_CHANGED"]),
   ("android.hardware.usb.action.",
     ["USB_STATE", "USB_ACCESSORY_ATTACHED", "USB_DEVICE_ATTACHED", "USB_DEVICE_DETACHED"]),
   ("android.net.conn.",
     ["CONNECTIVITY_CHANGE", "CONNECTIVITY_CHANGE_IMMEDIATE", "DATA_ACTIVITY_CHANGE",
      "BACKGROUND_DATA_SETTING_CHANGED", "CAPTIVE_PORTAL_TEST_COMPLETED", "TETHER_STATE_CHANGED",
      "INET_CONDITION_ACTION"]),
   ("android.nfc.action.", ["LLCP_LINK_STATE_CHANGED", "TRANSACTION_DETECTED"]),
   ("com.android.nfc_extras.action.",
     ["RF_FIELD_ON_DETECTED", "RF_FIELD_OFF_DETECTED", "AID_SELECTED"]),
   ("android.os.UpdateLock.", ["UPDATE_LOCK_CHANGED"]),
   ("com.android.server.WifiManager.action.", ["START_SCAN", "DELAYED_DRIVER_STOP"]),
   ("android.net.wifi.",
     ["WIFI_STATE_CHANGED", "WIFI_AP_STATE_CHANGED", "WIFI_SCAN_AVAILABLE", "SCAN_RESULTS",
      "RSSI_CHANGED", "STATE_CHANGE", "LINK_CONFIGURATION_CHANGED", "CONFIGURED_NETWORKS_CHANGE"]),
   ("android.net.wifi.supplicant.", ["CONNECTION_CHANGE", "STATE_CHANGE"]),
   ("android.net.wifi.p2p.",
     ["STATE_CHANGED", "DISCOVERY_STATE_CHANGE", "THIS_DEVICE_CHANGED", "PEERS_CHANGED",
      "CONNECTION_STATE_CHANGE", "PERSISTENT_GROUPS_CHANGED"]),
   ("android.provider.Telephony.", ["SPN_STRINGS_UPDATED", "SIM_FULL"]),
   ("com.android.internal.telephony.", ["data-restart-trysetup", "data-stall"])]

def protectedBroadcasts : List String :=
  protectedNames.flatMap fun (space, names) => names.map (space ++ ·)

def reviewText (tag : String) : String :=
  "Failing to protect " ++ tag ++
    " tags could leave them vulnerable to attack by malicious apps. The " ++ tag ++
    " tags should be reviewed for vulnerabilities, such as injection and information leakage."

def permittedText (tag name : String) : String :=
  "The " ++ tag ++ " " ++ name ++
    " tag is exported and protected by a permission, but the permission can be obtained by " ++
    "malicious apps installed prior to this one. More info: " ++
    "https://github.com/commonsguy/cwac-security/blob/master/PERMS.md. " ++ reviewText tag

def protectedText (tag name : String) : String :=
  "The " ++ tag ++ " " ++ name ++
    " is exported, but the associated Intents can only be sent by SYSTEM level apps. They could " ++
    "still potentially be vulnerable, if the Intent carries data that is tainted (2nd order " ++
    "injection)"

def exportedText (tag name : String) : String :=
  "The " ++ tag ++ " " ++ name ++ " is exported, but not protected by any permissions. " ++
    reviewText tag

def report (m : Manifest) (component : Component) (name title : String) (severity : Severity)
    (description : String) : Finding where
  category := .text "Manifest"
  name := .text title
  severity := severity
  description := .text description
  file := optionalText m.path
  exploit := .table
    [("exported_enum", .component component), ("tag_name", .text name),
     ("package_name", .text "")]

/-- What is reported for the element itself, or `none` if its actions are not looked at either. -/
def elementFindings (m : Manifest) (tag : String) (component : Component) (name : String)
    (exported : Option String) (permission filters : Bool) : Option (List Finding) :=
  let isProvider := tag == "provider"
  if exported == some "false" then none
  else if exported.isSome || isProvider then
    if (isProvider && m.minSdk > 16) || m.targetSdk > 16 then none
    else if permission && m.minSdk < 20 then
      some [report m component name "Exported tags" .info (permittedText tag name)]
    else if exported.any (!·.isEmpty) && !filters then
      some [report m component name "Exported tags" .warning (exportedText tag name)]
    else some []
  else some []

def actionFinding (m : Manifest) (tag : String) (component : Component) (name : String)
    (permission : Bool) (action : String) : Finding :=
  if protectedBroadcasts.contains action then
    report m component name "Protected Exported Tags" .info (protectedText tag name)
  else if permission && m.minSdk < 20 then
    report m component name "Exported Tag With Permission" .info (permittedText tag name)
  else report m component name "Exported tags" .warning (exportedText tag name)

def tagFindings (m : Manifest) (tag : String) (component : Component) (e : Xml.Element) :
    List Finding :=
  let name := (e.attribute? "android:name").getD "unknown_tag"
  let exported := (e.attribute? "android:exported").map Text.lower
  let permission := (e.attribute? "android:permission").isSome
  let filters := e.descendantsWritten "intent-filter"
  match elementFindings m tag component name exported permission (!filters.isEmpty) with
  | none => []
  | some found =>
    let actions := filters.flatMap fun f =>
      (f.descendantsWritten "action").filterMap fun a => a.attribute? "android:name"
    found ++ actions.map (actionFinding m tag component name permission)

def fromManifest (m : Manifest) (root : Xml.Element) : List Finding :=
  tags.flatMap fun (tag, component) =>
    (root.allWritten tag).flatMap (tagFindings m tag component)

def extraLiterals (nodes : List Java.Node) : List String :=
  (nodes.filter fun n => n.calledMember?.any extraMethods.contains).flatMap fun n =>
    n.arguments.filterMap Java.Node.literal?

/-- Adds texts to collected arguments, each once. What is no list cannot take any. -/
def addArguments : Value → List String → Except Failure Value
  | arguments, [] => .ok arguments
  | .list items, t :: rest =>
    if items.any fun item => item.same (.text t) then addArguments (.list items) rest
    else addArguments (.list (items ++ [.text t])) rest
  | .text s, t :: rest =>
    if Text.contains s t then addArguments (.text s) rest else .error .unsupported
  | .table entries, t :: rest =>
    if entries.any (·.1 == t) then addArguments (.table entries) rest
    else .error .unsupported
  | _, _ :: _ => .error .unsuited

def setEntry (entries : List (String × Value)) (key : String) (v : Value) :
    List (String × Value) :=
  if entries.any (·.1 == key) then entries.map fun e => if e.1 == key then (key, v) else e
  else entries ++ [(key, v)]

def entriesOf (exploit : Value) : Except Failure (List String) :=
  match exploit.get? "exported_enum" with
  | none => .error (.noEntry "exported_enum")
  | some (.component c) =>
    match entryMethods c.word with
    | some methods => .ok methods
    | none => .error (.noEntry c.word)
  | some _ => .error .unsupported

/-- Adds the extras read in a source file to what is known for an exploit: all of them as soon as
the file declares a method through which the component is entered. -/
def addExtras (exploit : List (String × Value)) (tree : Java.Node) :
    List (String × Value) × Option Failure :=
  let known := ((Value.table exploit).get? "arguments").getD (.list [])
  let exploit := setEntry exploit "arguments" known
  let (nodes, whole) := tree.reached
  let methods := nodes.filterMap Java.Node.declaredMethod?
  let result : Except Failure Value :=
    if methods.isEmpty then .ok known
    else do
      let entries ← entriesOf (.table exploit)
      if methods.any entries.contains then addArguments known (extraLiterals nodes) else .ok known
  match result with
  | .ok v => (setEntry exploit "arguments" v, if whole then none else some .tooDeep)
  | .error e => (exploit, some e)

def hasMore (before after : List (String × Value)) : Bool :=
  let count (entries : List (String × Value)) : Nat :=
    match (Value.table entries).get? "arguments" with
    | some (.list items) => items.length
    | _ => 0
  count before < count after

/-- Searches the source files whose path holds a text, until one adds an argument. Files that
cannot be opened or are misplaced in their words are passed over. -/
def searchFiles (fs : FileSystem) (needle : String) :
    List String → List (String × Value) → List (String × Value) × Option Failure
  | [], exploit => (exploit, none)
  | file :: rest, exploit =>
    if !Text.contains file needle then searchFiles fs needle rest exploit
    else
      match fs.textAt (some file) with
      | .error (.file _) => searchFiles fs needle rest exploit
      | .error e => (exploit, some e)
      | .ok text =>
        match Java.read text with
        | .error e =>
          if e.isPassedOver then searchFiles fs needle rest exploit
          else (exploit, some (.source e))
        | .ok tree =>
          match addExtras exploit tree with
          | (found, some e) => (found, some e)
          | (found, none) =>
            if hasMore exploit found then (found, none) else searchFiles fs needle rest found

/-- Completes one finding. A finding without a table for exploits stops the search; one whose
table names no component is passed over. -/
def complete (fs : FileSystem) (javaFiles : List String) (f : Finding) :
    Finding × Option Failure :=
  match f.exploit with
  | .table entries =>
    match (Value.table entries).get? "tag_name" with
    | some (.text name) =>
      let (entries, e) := searchFiles fs (Text.replace name "." "/") javaFiles entries
      ({ f with exploit := .table entries }, e)
    | _ => (f, none)
  | .component _ => (f, none)
  | _ => (f, some .unsuited)

def completeAll (fs : FileSystem) (javaFiles : List String) :
    List Finding → List Finding × Option Failure
  | [] => ([], none)
  | f :: rest =>
    match complete fs javaFiles f with
    | (f, some e) => (f :: rest, some e)
    | (f, none) =>
      let (rest, e) := completeAll fs javaFiles rest
      (f :: rest, e)

/-- Reports the components of the manifest behind the findings there are, and completes all of
them from the source files among `files`. -/
def run (fs : FileSystem) (m : Manifest) (files : Option (List String)) (known : List Finding) :
    List Finding × Option Failure :=
  match m.root with
  | none => (known, none)
  | some root =>
    if root.isTooDeep then (known, some .tooDeep)
    else
      let found := known ++ fromManifest m root
      match files with
      | none => (found, some (.absent .items))
      | some files => completeAll fs (files.filter Path.isJavaFile) found

end DroidAudit.ExportedDetector
