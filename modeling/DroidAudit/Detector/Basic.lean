import DroidAudit.Finding.Basic

/-! The detectors: their names, their categories, and what they look at. -/
namespace DroidAudit

inductive Detector
  | allowBackup
  | androidPath
  | manifestKeys
  | customPermissions
  | debuggable
  | exportedTags
  | minSdk
  | singleTask
  | taskReparenting
  | dynamicReceiver
  | sentBroadcast
  | logging
  | contentKeys
  | externalStorage
  | filePermissions
  | plainUrl
  | insecureFunctions
  | phoneIdentifier
  | ecbCipher
  | privateKeys
  | rsaCipher
  | fixedSeed
  | pendingIntent
  | certificates
  | hostnames
  | scriptInterface
  | scriptEnabled
  | baseUrl
  | remoteDebugging
  | contentAccess
  | fileAccess
  | universalAccess
  | domStorage
  | permissionChecks
  | taskAffinity
  deriving Repr, DecidableEq

inductive Category
  | manifest
  | broadcast
  | file
  | crypto
  | intent
  | cert
  | webview
  | generic
  deriving Repr, DecidableEq

namespace Category

def name : Category → String
  | manifest => "manifest"
  | broadcast => "broadcast"
  | file => "file"
  | crypto => "crypto"
  | intent => "intent"
  | cert => "cert"
  | webview => "webview"
  | generic => "generic"

def all : List Category := [manifest, broadcast, file, crypto, intent, cert, webview, generic]

def detectors : Category → List (String × Detector)
  | manifest =>
    [("allow_backup", .allowBackup), ("android_path", .androidPath), ("api_keys", .manifestKeys),
     ("custom_permissions", .customPermissions), ("debuggable", .debuggable),
     ("exportedtags", .exportedTags), ("min_sdk", .minSdk),
     ("single_task_launch_mode", .singleTask), ("task_reparenting", .taskReparenting)]
  | broadcast =>
    [("dynamic_broadcast_receiver", .dynamicReceiver),
     ("send_broadcast_receiver_permission", .sentBroadcast)]
  | file =>
    [("android_logging", .logging), ("api_keys", .contentKeys),
     ("external_storage", .externalStorage), ("file_permissions", .filePermissions),
     ("http_url_hardcoded", .plainUrl), ("insecure_functions", .insecureFunctions),
     ("phone_identifier", .phoneIdentifier)]
  | crypto =>
    [("ecb_cipher_usage", .ecbCipher), ("packaged_private_keys", .privateKeys),
     ("rsa_cipher_usage", .rsaCipher), ("setting_secure_random_seed", .fixedSeed)]
  | intent => [("implicit_intent_to_pending_intent", .pendingIntent)]
  | cert =>
    [("cert_validation_methods_overriden", .certificates), ("hostname_verifier", .hostnames)]
  | webview =>
    [("add_javascript_interface", .scriptInterface), ("javascript_enabled", .scriptEnabled),
     ("load_data_with_base_url", .baseUrl), ("remote_webview_debugging", .remoteDebugging),
     ("set_allow_content_access", .contentAccess), ("set_allow_file_access", .fileAccess),
     ("set_allow_universal_access_from_file_urls", .universalAccess),
     ("set_dom_storage_enabled", .domStorage)]
  | generic => [("check_permissions", .permissionChecks), ("task_affinity", .taskAffinity)]

/-- The names listed below a category; without one, those at the top, where the categories stand. -/
def listing (category : Option String) : List String :=
  match category with
  | none | some "" =>
    ["broadcast", "cert", "crypto", "file", "generic", "intent", "manifest", "manifest_helpers",
     "webview"]
  | some name =>
    match all.find? fun c => c.name == name with
    | some c => c.detectors.map (·.1)
    | none => []

end Category

inductive Family
  /-- The manifest of the app. -/
  | manifest
  /-- The text of a file. -/
  | text
  /-- The tree of a source file as a whole. -/
  | tree
  /-- The nodes of a tree one by one. A detector that waits for its nodes can be fed with them but
  not started on its own. -/
  | stream (waits : Bool)
  deriving Repr, DecidableEq

namespace Detector

def family : Detector → Family
  | allowBackup | androidPath | manifestKeys | customPermissions | debuggable | exportedTags
  | minSdk | singleTask | taskReparenting => .manifest
  | contentKeys | filePermissions | plainUrl | phoneIdentifier | privateKeys => .text
  | permissionChecks | taskAffinity | contentAccess | fileAccess => .tree
  | externalStorage | insecureFunctions | pendingIntent | scriptInterface | scriptEnabled
  | baseUrl | remoteDebugging | universalAccess | domStorage => .stream false
  | dynamicReceiver | sentBroadcast | logging | ecbCipher | rsaCipher | fixedSeed | certificates
  | hostnames => .stream true

def ofName? (name : String) : Option Detector :=
  let named := Category.all.flatMap fun c => c.detectors.map fun (m, d) => (c.name ++ "/" ++ m, d)
  (named.find? (·.1 == name)).map (·.2)

end Detector

structure Notice where
  category : String
  name : String
  severity : Severity
  description : String

def Notice.about (n : Notice) (file : Option String) (place : Option Position) : Finding where
  category := .text n.category
  name := .text n.name
  severity := n.severity
  description := .text n.description
  line := optionalPosition place
  file := optionalText file

end DroidAudit
