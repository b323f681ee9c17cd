import DroidAudit.Report.Basic
import DroidAudit.Text.Similar

/-! The options of the command line. Options are read from left to right; a later value of the
same setting counts. The values are checked afterwards, those given first, and of those not given
the defaults. -/
namespace DroidAudit.Cli

/-- What is set by options; two options name the source. -/
inductive Setting
  | sdkPath | buildPath | debug | source | reportType | exploitApp | reportPath | keepReport
  | version | help
  deriving Repr, DecidableEq

inductive Parameter
  | sdkPath | buildPath | debug | apk | java | reportType | exploitApp | reportPath | keepReport
  | version | help
  deriving Repr, DecidableEq

/-- What a switch does to its setting, or that the next word is its value. -/
inductive Action
  | takesWord
  | sets (on : Bool)
  deriving Repr, DecidableEq

namespace Parameter

def all : List Parameter :=
  [sdkPath, buildPath, debug, apk, java, reportType, exploitApp, reportPath, keepReport, version,
   help]

def setting : Parameter → Setting
  | sdkPath => .sdkPath
  | buildPath => .buildPath
  | debug => .debug
  | apk => .source
  | java => .source
  | reportType => .reportType
  | exploitApp => .exploitApp
  | reportPath => .reportPath
  | keepReport => .keepReport
  | version => .version
  | help => .help

def words : Parameter → List (String × Action)
  | sdkPath => [("--sdk-path", .takesWord)]
  | buildPath => [("--build-path", .takesWord)]
  | debug => [("--debug", .sets true), ("--no-debug", .sets false)]
  | apk => [("--apk", .takesWord)]
  | java => [("--java", .takesWord)]
  | reportType => [("--report-type", .takesWord)]
  | exploitApp => [("--exploit-apk", .sets true), ("--no-exploit-apk", .sets false)]
  | reportPath => [("--report-path", .takesWord)]
  | keepReport => [("--keep-report", .sets true), ("--no-keep-report", .sets false)]
  | version => [("--version", .sets true)]
  | help => [("--help", .sets true)]

def isEager (p : Parameter) : Bool := p == version || p == help

def word (p : Parameter) : String := (p.words.head?.map (·.1)).getD ""

end Parameter

structure Word where
  text : String
  parameter : Parameter
  action : Action

def allWords : List Word :=
  Parameter.all.flatMap fun p => p.words.map fun (text, action) => ⟨text, p, action⟩

inductive UsageFault
  | unknown (word : String) (similar : List String)
  | lacksValue (word : String)
  | takesNoValue (word : String)
  | pathMissing (option : String) (onlyDirectory : Bool) (value : String)
  | isFile (option value : String)
  | notAChoice (option value : String)
  | extra (words : List String)
  deriving Repr, DecidableEq

namespace UsageFault

def similarText : List String → String
  | [] => ""
  | [one] => " Did you mean " ++ one ++ "?"
  | several => " (Possible options: " ++ Text.join ", " several ++ ")"

def invalid (option text : String) : String := "Invalid value for '" ++ option ++ "': " ++ text

def message : UsageFault → String
  | unknown word similar => "No such option: " ++ word ++ similarText similar
  | lacksValue word => "Option " ++ Text.quoted word ++ " requires an argument."
  | takesNoValue word => "Option " ++ Text.quoted word ++ " does not take a value."
  | pathMissing option onlyDirectory value =>
    invalid option ((if onlyDirectory then "Directory " else "Path ") ++
      Text.quoted (Text.shownPath value) ++ " does not exist.")
  | isFile option value =>
    invalid option ("Directory " ++ Text.quoted (Text.shownPath value) ++ " is a file.")
  | notAChoice option value =>
    invalid option (Text.quoted value ++ " is not one of " ++
      Text.join ", " (PageKind.all.map fun k => Text.quoted k.name) ++ ".")
  | extra words =>
    "Got unexpected extra argument" ++ (if words.length == 1 then "" else "s") ++ " (" ++
      Text.join " " words ++ ")"

def showsUsage : UsageFault → Bool
  | lacksValue _ => false
  | takesNoValue _ => false
  | _ => true

end UsageFault

inductive Given
  | word (s : String)
  | on (b : Bool)
  deriving Repr, DecidableEq

/-- What the words of a command line say, in their order, and the words that belong to nothing. -/
structure Parsed where
  given : List (Parameter × Given) := []
  extra : List String := []

namespace Parsed

def add (p : Parsed) (parameter : Parameter) (g : Given) : Parsed :=
  { p with given := p.given ++ [(parameter, g)] }

def get? (p : Parsed) (s : Setting) : Option Given :=
  (p.given.reverse.find? fun g => g.1.setting == s).map (·.2)

def isOn (p : Parsed) (s : Setting) : Bool := p.get? s == some (.on true)

/-- The parameters in the order in which they are looked at: those looked at before all others
first, then those given, then the others. -/
def order (p : Parsed) : List Parameter :=
  let given := (p.given.map (·.1)).eraseDups
  let all := given ++ Parameter.all.filter fun q => !given.contains q
  all.filter (·.isEager) ++ all.filter fun q => !q.isEager

end Parsed

def cutValue (word : String) : String × Option String :=
  match word.toList.dropWhile (· != '=') with
  | [] => (word, none)
  | _ :: value => (String.ofList (word.toList.takeWhile (· != '=')), some (String.ofList value))

/-- What is wrong with a word that is no option: after a single dash only its first letter is
looked at. -/
def unknownWord (word name : String) : UsageFault :=
  match word.toList with
  | '-' :: '-' :: _ =>
    .unknown name
      ((Text.closeMatches name (allWords.map (·.text))).mergeSort fun a b => a ≤ b)
  | '-' :: c :: cs => .unknown (String.ofList ('-' :: (Text.cut 1 (c :: cs)).1)) []
  | _ => .unknown name []

def isOption (word : String) : Bool :=
  match word.toList with
  | '-' :: _ :: _ => true
  | _ => false

/-- Reads the words. After two dashes nothing is an option. -/
def parse (p : Parsed) : List String → Except UsageFault Parsed
  | [] => .ok p
  | word :: rest =>
    if word == "--" then .ok { p with extra := p.extra ++ rest }
    else if !isOption word then parse { p with extra := p.extra ++ [word] } rest
    else
      let (name, attached) := cutValue word
      match allWords.find? (·.text == name) with
      | none => .error (unknownWord word name)
      | some w =>
        match w.action, attached with
        | .sets on, none => parse (p.add w.parameter (.on on)) rest
        | .sets _, some _ => .error (.takesNoValue name)
        | .takesWord, some value => parse (p.add w.parameter (.word value)) rest
        | .takesWord, none =>
          match rest with
          | [] => .error (.lacksValue name)
          | value :: more => parse (p.add w.parameter (.word value)) more

/-- The settings of a run; paths are absolute. -/
structure Options where
  sdkPath : Option String
  buildPath : String
  debug : Bool
  source : Option String
  kind : PageKind
  exploitApp : Bool
  reportPath : Option String
  keepReport : Bool
  deriving Repr

inductive Request
  | help
  | version
  | run (o : Options)
  | wrong (f : UsageFault)
  /-- A path that leads nowhere, so that not even a message is printed. -/
  | broken

/-- Checks a path: whether it must exist, and whether it may be a file. Links that lead in a circle
and paths that cannot be given to the files break the run. -/
def checkPath (fs : FileSystem) (option : String) (mustExist mayBeFile : Bool) (value : String) :
    Except Request Unit :=
  match fs.entry (fs.realPath value) with
  | .error c =>
    if c.isOfPath || c = .tooManyLinks then .error .broken
    else if mustExist then .error (.wrong (.pathMissing option (!mayBeFile) value)) else .ok ()
  | .ok (.file _ _) =>
    if mayBeFile then .ok () else .error (.wrong (.isFile option value))
  | .ok _ => .ok ()

def defaultBuild : String := "build"

/-- Checks the value that a parameter has in the end. A bad one leads to a request of its own. -/
def check (fs : FileSystem) (p : Parsed) (q : Parameter) : Except Request Unit :=
  let value : Option String :=
    match p.get? q.setting with
    | some (.word s) => some s
    | _ => if q == .buildPath then some defaultBuild else none
  match value, q with
  | some s, .sdkPath => checkPath fs q.word true false s
  | some s, .buildPath => checkPath fs q.word false false s
  | some s, .reportPath => checkPath fs q.word false false s
  | some s, .apk => checkPath fs q.word true true s
  | some s, .java => checkPath fs q.word true true s
  | some s, .reportType =>
    if (PageKind.ofName? s).isSome then .ok () else .error (.wrong (.notAChoice q.word s))
  | _, _ => .ok ()

def optionsOf (fs : FileSystem) (p : Parsed) : Options :=
  let path (s : Setting) : Option String :=
    match p.get? s with
    | some (.word v) => some (fs.realPath v)
    | _ => none
  { sdkPath := path .sdkPath
    buildPath := (path .buildPath).getD (fs.realPath defaultBuild)
    debug := p.isOn .debug
    source := path .source
    kind := match p.get? .reportType with
      | some (.word s) => (PageKind.ofName? s).getD .html
      | _ => .html
    exploitApp := p.isOn .exploitApp
    reportPath := path .reportPath
    keepReport := p.isOn .keepReport }

def settle (fs : FileSystem) (p : Parsed) : List Parameter → Request
  | [] => if p.extra.isEmpty then .run (optionsOf fs p) else .wrong (.extra p.extra)
  | q :: rest =>
    if q == .help && p.isOn .help then .help
    else if q == .version && p.isOn .version then .version
    else
      match check fs p q with
      | .error r => r
      | .ok () => settle fs p rest

def request (fs : FileSystem) (words : List String) : Request :=
  match parse {} words with
  | .error f => .wrong f
  | .ok p => settle fs p p.order

end DroidAudit.Cli
