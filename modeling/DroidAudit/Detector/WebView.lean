import DroidAudit.Detector.Call

/-! Detectors that look at web views. -/
namespace DroidAudit.WebViewDetector
open Java

def interfaceNotice : Notice where
  category := "webview"
  name := "Webview uses addJavascriptInterface pre-API 17"
  severity := .warning
  description :=
    "This webview uses the addJavascriptInterface method in a pre-API 17 app, which exposes " ++
    "all public methods to Javascript running in the WebView. If this webview loads untrusted " ++
    "content or trusted content over plain-text HTTP, this represents a MAJOR issue! " ++
    "Reference: " ++
    "https://labs.mwrinfosecurity.com/blog/2013/09/24/" ++
    "webview-addjavascriptinterface-remote-code-execution/. " ++
    "To validate this vulnerability, load the following local file in this WebView: " ++
    "file://qark/poc/html/BAD_JS_INT.html"

def scriptNotice : Notice where
  category := "webview"
  name := "Javascript enabled in Webview"
  severity := .warning
  description :=
    "While not a vulnerability by itself, it appears this app has JavaScript enabled in the " ++
    "WebView: If this is not expressly necessary, you should disable it, to prevent the " ++
    "possibility of XSS (cross-site scripting) attacks. More info: " ++
    "http://developer.android.com/guide/practices/security.html To validate this " ++
    "vulnerability, load the following local file in this WebView: " ++
    "qark/poc/html/JS_WARNING.html"

def baseUrlNotice : Notice where
  category := "webview"
  name := "BaseURL set for Webview"
  severity := .warning
  description :=
    "This webView sets the BaseURL. You should verify that this is only loading content from " ++
    "this domain. Loading content from a domain you do not control, or using plain-text HTTP, " ++
    "leaves this vulnerable to injection attacks against the BaseURL domain."

def debuggingNotice : Notice where
  category := "webview"
  name := "Remote debugging enabled in Webview"
  severity := .warning
  description := "Enabling webview remote debugging is insecure."

def storageNotice : Notice where
  category := "webview"
  name := "Webview enables DOM Storage"
  severity := .warning
  description :=
    "DOM Storage enabled for this WebView, there is a potential for caching sensitive " ++
    "information."

def contentNotice : Notice where
  category := "webview"
  name := "Webview enables content access"
  severity := .warning
  description :=
    "While not a vulnerability by itself, it appears this app does not explicitly disable " ++
    "Content Provider access from WebViews. If the WebViews take in untrusted input, this can " ++
    "allow for data theft. To validate this vulnerability, load the following local file in " ++
    "this WebView: file://qark/poc/html/WV_CPA_WARNING.html"

def fileNotice : Notice where
  category := "webview"
  name := "Webview enables file access"
  severity := .warning
  description :=
    "File system access is enabled in this WebView. If untrusted data is used to specify the " ++
    "URL opened by this WebView, a malicious app or site may be able to read your app's " ++
    "private files, if it returns the response to them. To validate this vulnerability, load " ++
    "the following local file in this WebView: qark/poc/html/FILE_SYS_WARN.html"

def universalNotice : Notice where
  category := "webview"
  name := "Webview enables universal access for JavaScript"
  severity := .warning
  description :=
    "JavaScript running in a file scheme context can access content from any origin. This is " ++
    "an insecure default value for minSdkVersion < 16 or may have been overridden " ++
    "(setAllowUniversalAccessFromFileURLs) in later versions. To validate this vulnerability, " ++
    "load the following local file in this WebView: file://qark/poc/html/UNIV_FILE_WARNING.html"

def universalMethod : String := "setAllowUniversalAccessFromFileURLs"

def ifCall (matched : Bool) (notice : Notice) (path : Option String) (n : Node) : List Finding :=
  if matched then [notice.about path n.position] else []

/-- A variable and the declaration of a web view it stands for; declarations are numbered. -/
structure View where
  name : String
  number : Nat
  node : Node

/-- Declares a variable anew, in the place of an earlier one of that name. -/
def declare (views : List View) (v : View) : List View :=
  if views.any (·.name == v.name) then
    views.map fun w => if w.name == v.name then v else w
  else views ++ [v]

/-- Takes away every variable of the declaration that a variable stands for. -/
def settle (views : List View) (name : Option String) : List View :=
  match name with
  | none => views
  | some name =>
    match views.find? (·.name == name) with
    | none => views
    | some v => views.filter (·.number != v.number)

def declaredViews (n : Node) : Option (List String) :=
  match n.kind with
  | .variableDeclaration | .localVariableDeclaration =>
    let names := (n.part .declarator).filterMap fun d =>
      match d.kind with
      | .variableDeclarator name => some name
      | _ => none
    match (n.part .type).head?.map Node.kind with
    | some (.referenceType "WebView") => some names
    | _ => some []
  | _ => none

/-- The state of a walk through a method: the views that are not settled, the object whose settings
were asked for last, and how many declarations were seen. -/
structure Walk where
  views : List View
  settings : Option String
  count : Nat

/-- Goes through the selectors behind a call for settings. Only something with arguments can be
asked for its argument. -/
def settleSelectors (method : String) (name : Option String) :
    List View → List Node → Except Failure (List View)
  | views, [] => .ok views
  | views, s :: rest =>
    if !s.kind.takesArguments then .error (.lacksPart (selectorOwner s) "arguments")
    else if s.isCallWith method "false" then
      settleSelectors method name (settle views name) rest
    else settleSelectors method name views rest
where
  selectorOwner (s : Node) : String :=
    match s.kind with
    | .memberReference .. => "MemberReference"
    | .arraySelector => "ArraySelector"
    | .this => "This"
    | .superMemberReference _ => "SuperMemberReference"
    | _ => "Keyword"

/-- Before a web view is declared, all those that are known are copied. -/
def step (method : String) (w : Walk) (n : Node) : Except Failure Walk :=
  match declaredViews n with
  | some names =>
    if !names.isEmpty && w.views.any (!·.node.isCopyable) then .error .tooDeep
    else
      let views := names.foldl (fun vs name => declare vs ⟨name, w.count, n⟩) w.views
      .ok { w with views := views, count := w.count + 1 }
  | none =>
    match n.calledMember? with
    | none => .ok w
    | some "getSettings" => do
      let views ← settleSelectors method n.callQualifier? w.views n.selectors
      let left := if n.isCallWith method "false" then settle views n.callQualifier? else views
      .ok { w with views := left, settings := n.callQualifier? }
    | some _ =>
      if n.isCallWith method "false" then .ok { w with views := settle w.views w.settings }
      else .ok w

def walkMethod (method : String) : Walk → List Node → Except Failure Walk
  | w, [] => .ok w
  | w, n :: rest => do walkMethod method (← step method w n) rest

/-- The declarations of some views, each one once. They are kept as a set, so nothing may depend on
their order. -/
def declarations : List Nat → List View → List Node
  | _, [] => []
  | seen, v :: rest =>
    if seen.contains v.number then declarations seen rest
    else v.node :: declarations (v.number :: seen) rest

/-- The declarations inside one method that stay unsettled. -/
def unsettled (method : String) (m : Node) : Except Failure (List Node) := do
  let w ← walkMethod method ⟨[], none, 0⟩ m.walk
  .ok (declarations [] w.views)

def methodDefaults (method : String) (notice : Notice) (path : Option String) (m : Node) :
    Except Failure (List Finding) := do
  let left ← unsettled method m
  .ok (left.map fun n => notice.about path n.position)

/-- Web views that are never told `false` by the method: every declaration inside a method of the
tree that stays unsettled. -/
def defaults (tree : Option Node) (method : String) (notice : Notice) (path : Option String) :
    Except Failure (List Finding) :=
  match tree with
  | none => .error (.absent .nodes)
  | some tree => do
    let (nodes, whole) := tree.reached
    let methods := nodes.filter fun n => n.declaredMethod?.isSome
    let found ← methods.mapM (methodDefaults method notice path)
    if whole then .ok found.flatten else .error .tooDeep

end DroidAudit.WebViewDetector
