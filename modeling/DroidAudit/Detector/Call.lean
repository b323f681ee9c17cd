import DroidAudit.Detector.Content

/-! Detectors that look at calls and declarations one by one. -/
namespace DroidAudit

namespace Java
namespace Node

def calledMember? (n : Node) : Option String :=
  match n.kind with
  | .methodInvocation _ member => some member
  | _ => none

def callQualifier? (n : Node) : Option String :=
  match n.kind with
  | .methodInvocation qualifier _ => qualifier
  | _ => none

def declaredMethod? (n : Node) : Option String :=
  match n.kind with
  | .methodDeclaration name => some name
  | _ => none

def literal? (n : Node) : Option String :=
  match n.kind with
  | .literal text => some text
  | _ => none

def isCallOf (n : Node) (member : String) (arguments : Nat) : Bool :=
  n.calledMember? == some member && n.arguments.length == arguments

/-- Whether a call has one argument, the literal `value`. -/
def isCallWith (n : Node) (member value : String) : Bool :=
  n.isCallOf member 1 && (n.arguments.head?.bind literal?) == some value

end Node
end Java

namespace CallDetector
open Java

def receiverNotice : Notice where
  category := "broadcast"
  name := "Dynamic broadcast receiver found"
  severity := .vulnerability
  description :=
    "Application that registers a broadcast receiver dynamically is vulnerable to granting " ++
    "unrestricted access to the broadcast receiver. The receiver will be called with any " ++
    "broadcast Intent that matches the filter. Reference: " ++
    "https://developer.android.com/reference/android/content/Context.html" ++
    "#registerReceiver(android.content.BroadcastReceiver, " ++
    "android.content.IntentFilter)"

def dynamicReceiver (minSdk : Int) (path : Option String) (n : Node) : List Finding :=
  if n.calledMember? == some "registerReceiver" && minSdk < 14 then
    [receiverNotice.about path n.position]
  else []

def broadcastMethods : List String :=
  ["sendBroadcast", "sendBroadcastAsUser", "sendOrderedBroadcast", "sendOrderedBroadcastAsUser",
   "sendStickyBroadcast", "sendStickyBroadcastAsUser", "sendStickyOrderedBroadcast",
   "sendStickyOrderedBroadcastAsUser"]

def localBroadcastImports : List String :=
  ["android.support.v4.content.LocalBroadcastManager", "android.support.v4.content.*",
   "android.support.v4.*", "android.support.*", "android.*"]

def importsLocalBroadcasts (unit : Node) : Bool :=
  unit.imports.any localBroadcastImports.contains

inductive Protection
  | none
  | permission
  | oldPermission
  | sticky
  deriving Repr, DecidableEq

def Protection.description (method : String) : Protection → String
  | .none =>
    "A broadcast, " ++ method ++
      " which does not specify the receiverPermission. This means any application on the device " ++
      "can receive this broadcast. You should investigate this for potential data leakage."
  | .permission =>
    "A broadcast, " ++ method ++
      " which specifies the receiverPermission, but depending on the protection level of the " ++
      "permission (on the receiving app side), may still be vulnerable to interception, if the " ++
      "protection level of the permission is not set to signature or signatureOrSystem. You " ++
      "should investigate this for potential data leakage."
  | .oldPermission =>
    "A broadcast, " ++ method ++
      " which specifies the receiverPermission, but may still be vulnerable to interception, " ++
      "due " ++
      "to the permission squatting vulnerability in API levels before 21. This means any " ++
      "application, installed prior to the expected receiver(s) on the device can potentially " ++
      "receive this broadcast. You should investigate this for potential data leakage."
  | .sticky =>
    "A sticky broadcast, " ++ method ++
      ". These should not be used, as they provide no security (anyone can access them), no " ++
      "protection (anyone can modify them), and many other problems. For more info: " ++
      "http://developer.android.com/reference/android/content/Context.html"

/-- A name for a broadcast with a permission, which was weak below level 21. -/
def withPermission (minSdk : Int) (title : String) : String × Protection :=
  if minSdk < 21 then (title ++ " with minimum SDK under 21", .oldPermission)
  else (title, .permission)

def broadcastVerdict (minSdk : Int) (localImport : Bool) (method : String) (arguments : Nat) :
    Option (String × Protection) :=
  match method, arguments with
  | "sendBroadcast", 1 =>
    if localImport then none else some ("Broadcast sent without receiverPermission", .none)
  | "sendBroadcast", 2 =>
    some (withPermission minSdk "Broadcast sent with receiverPermission")
  | "sendBroadcastAsUser", 2 =>
    some ("Broadcast sent as specific user without receiverPermission", .oldPermission)
  | "sendBroadcastAsUser", 3 =>
    some (withPermission minSdk "Broadcast sent as specific user with receiverPermission")
  | "sendOrderedBroadcast", 2 | "sendOrderedBroadcast", 7 | "sendOrderedBroadcastAsUser", 7 =>
    some (withPermission minSdk "Ordered broadcast sent with receiverPermission")
  | "sendStickyBroadcast", _ | "sendStickyBroadcastAsUser", _ | "sendStickyOrderedBroadcast", _
  | "sendStickyOrderedBroadcastAsUser", _ => some ("Sticky broadcast sent", .sticky)
  | _, _ => none

def sentBroadcast (minSdk : Int) (localImport : Bool) (path : Option String) (n : Node) :
    List Finding :=
  match n.calledMember? with
  | none => []
  | some method =>
    match broadcastVerdict minSdk localImport method n.arguments.length with
    | none => []
    | some (title, protection) =>
      let notice : Notice :=
        { category := "broadcast"
          name := title
          severity := if protection = .sticky then .vulnerability else .warning
          description := protection.description method }
      [notice.about path n.position]

def loggingNotice : Notice where
  category := "file"
  name := "Logging found"
  severity := .warning
  description :=
    "Logs are detected. This may allow potential leakage of information from Android " ++
    "applications. Logs should never be compiled into an application except during " ++
    "development. Reference: https://developer.android.com/reference/android/util/Log.html"

def logging (path : Option String) (n : Node) : List Finding :=
  match n.calledMember? with
  | some member =>
    if n.callQualifier? == some "Log" && ["v", "d", "i", "w", "e"].contains member then
      [loggingNotice.about path n.position]
    else []
  | none => []

def storageNotice (place : String) : Notice where
  category := "file"
  name := "External storage used"
  severity := .warning
  description :=
    "Reading files stored on " ++ place ++
      " makes it vulnerable to data injection attacks. Note that this code does no error " ++
      "checking " ++
      "and there is no security enforced with these files. For example, any application holding " ++
      "WRITE_EXTERNAL_STORAGE can write to these files. Reference: " ++
      "https://developer.android.com/reference/android/content/Context.html"

/-- The place outside the app that a method opens. -/
def storagePlace : String → Option String
  | "getExternalFilesDir" | "getExternalFilesDirs" => some "External Storage"
  | "getExternalMediaDirs" => some "External Media Directory"
  | "getExternalStoragePublicDirectory" => some "External Storage Public Directory"
  | _ => none

def externalStorage (path : Option String) (n : Node) : List Finding :=
  match n.calledMember?.bind storagePlace with
  | some place => [(storageNotice place).about path n.position]
  | none => []

def functionNotice : Notice where
  category := "file"
  name := "Insecure functions found"
  severity := .warning
  description :=
    "The Content provider API provides a method call. The framework does no permission " ++
    "checking on this entry into the content provider besides the basic ability for the " ++
    "application to get access to the provider at all. Any implementation of this method must " ++
    "do its own permission checks on incoming calls to make sure they are allowed. Failure to " ++
    "do so will allow unauthorized components to interact with the content provider. " ++
    "Reference: " ++
    "https://bitbucket.org/secure-it-i/android-app-vulnerability-benchmarks/src/" ++
    "d5305b9481df3502e60e98fa352d5f58e4a69044/ICC/" ++
    "WeakChecksOnDynamicInvocation-InformationExposure/?at=master"

def insecureFunctions (path : Option String) (n : Node) : List Finding :=
  if n.declaredMethod? == some "call" then [functionNotice.about path n.position] else []

def ecbNotice : Notice where
  category := "crypto"
  name := "ECB Cipher Usage"
  severity := .vulnerability
  description :=
    "getInstance should not be called with ECB as the cipher mode, as it is insecure."

def rsaNotice : Notice where
  category := "crypto"
  name := "RSA Cipher Usage"
  severity := .vulnerability
  description :=
    "getInstance should not be called with RSA without padding as the cipher mode, as it is " ++
    "insecure."

def requestedCipher? (n : Node) : Option String :=
  if n.calledMember? == some "getInstance" && n.callQualifier? == some "Cipher" then
    n.arguments.head?.bind Node.literal?
  else none

def ecbCipher (path : Option String) (n : Node) : List Finding :=
  match requestedCipher? n with
  | some cipher => if Text.contains cipher "/ECB/" then [ecbNotice.about path none] else []
  | none => []

/-- Encryption without padding: between the names stands at least one character on one line. -/
def isUnpadded (cipher : String) : Bool :=
  Pattern.anySuffix
    (fun suffix =>
      match Text.after? "RSA/".toList suffix with
      | some rest => Text.occurs "/NoPadding".toList ((Pattern.firstLine rest).drop 1)
      | none => false)
    cipher.toList

def rsaCipher (path : Option String) (n : Node) : List Finding :=
  match requestedCipher? n with
  | some cipher => if isUnpadded cipher then [rsaNotice.about path none] else []
  | none => []

def seedNotice : Notice where
  category := "crypto"
  name := "Random number generator is seeded with SecureSeed"
  severity := .warning
  description :=
    "Specifying a fixed seed will cause a predictable sequence of numbers. This may be useful " ++
    "for testing, but not for secure use"

def fixedSeed (path : Option String) (n : Node) : List Finding :=
  if n.calledMember?.any ["setSeed", "generateSeed"].contains then [seedNotice.about path none]
  else []

def pendingMethods : List String := ["getActivities", "getService", "getActivity", "getBroadcast"]

def pendingNotice : Notice where
  category := "intent"
  name := "Implicit Pending Intent found"
  severity := .vulnerability
  description :=
    "For security reasons, the Intent supplied here should almost always be explicit. A " ++
    "malicious app could potentially intercept, redirect, and/or modify this Intent. Pending " ++
    "Intents retain the UID of your app and all permissions, allowing another app to act on " ++
    "your behalf. Refer to: " ++
    "https://developer.android.com/reference/android/app/PendingIntent.html"

def smallCreations (n : Node) : List Node :=
  n.walk.filter fun m => m.kind == .classCreator && m.arguments.length ≤ 1

/-- Every mention of an intent's class in an object that is created inside the arguments. -/
def pendingIntent (path : Option String) (n : Node) : List Finding :=
  if n.calledMember?.any pendingMethods.contains then
    n.arguments.flatMap fun argument =>
      (smallCreations argument).flatMap fun creation =>
        (creation.walk.filter fun m => m.kind == .referenceType "Intent").map fun _ =>
          pendingNotice.about path none
  else []

def emptyCheckText : String :=
  "Instance of checkServerTrusted, with empty body found. " ++
  "This means this application is likely vulnerable to Man-In-The-Middle attacks. This can be " ++
  "confirmed using the free version of Burpsuite. Simply set the Android device's proxy to use " ++
  "Burpsuite via the network settings, but DO NOT install the Portswigger CA certificate on " ++
  "the device. If you still see traffic in the proxy, the app is vulnerable. Note: You need to " ++
  "ensure you exercise this code path. If you are unsure, make sure you click through each " ++
  "part of the application which makes network requests. You may need to toggle the proxy " ++
  "on/off to get past sections that do validate certificates properly in order to reach the " ++
  "vulnerable code. This proves that it will accept certificates from any CA. You should " ++
  "always validate your configuration by visiting an HTTPS site in the native browser and " ++
  "verifying you receive a certificate warning. For details, please see: " ++
  "https://developer.android.com/training/articles/security-ssl.html"

def emptyCheckNotice (title : String) : Notice where
  category := "cert"
  name := title
  severity := .warning
  description := emptyCheckText

def ignoredErrorNotice : Notice where
  category := "cert"
  name := "Unsafe implementation of onReceivedSslError"
  severity := .warning
  description :=
    "Specifically, the implementation ignores all SSL certificate validation errors, making " ++
    "your app vulnerable to man-in-the-middle attacks. To properly handle SSL certificate " ++
    "validation, change your code to invoke SslErrorHandler.cancel(). For details, please see: " ++
    "https://developer.android.com/reference/android/webkit/WebViewClient.html"

def emptyCheck (path : Option String) (method : Node) : List Finding :=
  match method.body with
  | [] => [(emptyCheckNotice "Empty certificate method").about path method.position]
  | [statement] =>
    if statement.kind == .returnStatement then
      [(emptyCheckNotice "Empty (return) certificate method").about path method.position]
    else []
  | _ => []

def ignoredError (path : Option String) (method : Node) : List Finding :=
  match method.body with
  | [statement] =>
    if statement.kind == .statementExpression then
      (method.walk.filter fun m => m.calledMember? == some "proceed").map fun m =>
        ignoredErrorNotice.about path m.position
    else []
  | _ => []

def certificates (path : Option String) (n : Node) : List Finding :=
  match n.declaredMethod? with
  | some "checkServerTrusted" => emptyCheck path n
  | some "onReceivedSslError" => ignoredError path n
  | _ => []

def hostnameNotice (title : String) : Notice where
  category := "cert"
  name := title
  severity := .warning
  description :=
    "This can allow for improper x.509 certificate validation wherein the DNS hostname does " ++
    "not match the Common or Subject Alternative Name(s) on the certificate, making the " ++
    "application vulnerable to Man-In-The-Middle attacks. This means the application may " ++
    "potentially accept a certificate from any trusted CA, regardless of the domain it was " ++
    "issued for. This can be validated using the free version of Burpsuite by installing the " ++
    "Portswigger CA certificate, thereby making it a trusted CA on the device. Set the device " ++
    "network settings to use the Burpsuite proxy, then go Proxy > Options > Edit the Proxy " ++
    "Listener by changing the Certificate tab to Generate a CA-signed certificate with a " ++
    "specific hostname and enter a domain like foobar.com which doesn't match the domain " ++
    "name(s) the app is connecting to normally. You should always verify your results by " ++
    "visiting an https site in the native browser and confirming you see a certificate " ++
    "warning. For details, please see: " ++
    "https://developer.android.com/training/articles/security-ssl.html"

def createdClass? (n : Node) : Option String :=
  if n.kind == .classCreator then
    (n.part .type).head?.bind fun t =>
      match t.kind with
      | .referenceType name => some name
      | _ => none
  else none

def hostnames (path : Option String) (n : Node) : List Finding :=
  match createdClass? n with
  | some name =>
    if ["AllowAllHostnameVerifier", "NullHostNameVerifier",
        "NullHostnameVerifier"].contains name then
      [(hostnameNotice "Allow all hostname verifier used").about path none]
    else []
  | none =>
    let allowsAll (argument : Node) : Bool :=
      match argument.kind with
      | .memberReference _ member => member == "ALLOW_ALL_HOSTNAME_VERIFIER"
      | _ => false
    if n.isCallOf "setHostnameVerifier" 1 && n.arguments.any allowsAll then
      [(hostnameNotice "setHostnameVerifier set to ALLOW_ALL").about path n.position]
    else []

end CallDetector
end DroidAudit
