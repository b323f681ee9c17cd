import DroidAudit.Cli.Options
import DroidAudit.Exploit
import DroidAudit.Preparation
import DroidAudit.Scan

/-! The command line: an app is prepared and scanned, the report is written, and on demand an app
is built that exploits what was found. -/
namespace DroidAudit.Cli

def helpText : String :=
  Text.join "\n"
    ["Usage: qark [OPTIONS]", "", "  Main CLI command for QARK tool.", "", "Options:",
     "  --sdk-path DIRECTORY            Path to the downloaded SDK directory. Required",
     "                                  if --exploit-apk is passed.",
     "  --build-path DIRECTORY          Path to store decompiled files and exploit",
     "                                  APK.  [default: build]",
     "  --debug / --no-debug            Enable or disable debugging.  [default: no-",
     "                                  debug]",
     "  --apk PATH                      Path to APK for analysis.",
     "  --java PATH                     Path to Java source code or directory.",
     "  --report-type [html|xml|json|csv]",
     "                                  Report format.  [default: html]",
     "  --exploit-apk / --no-exploit-apk",
     "                                  Generate an exploit APK if vulnerabilities are",
     "                                  found.  [default: no-exploit-apk]",
     "  --report-path DIRECTORY         Path for report output.",
     "  --keep-report / --no-keep-report",
     "                                  Append to existing reports instead of",
     "                                  overwriting.  [default: no-keep-report]",
     "  --version                       Show the version and exit.",
     "  --help                          Show this message and exit."]

def versionText : String := "qark, version 1.0.0"

structure Setup where
  tools : Tools
  environment : Environment
  /-- Where reports go, and where the template of exploits is. -/
  reports : String
  template : String

structure Progress where
  desk : Desk
  lines : List String := []

structure Ended where
  status : Nat
  lines : List String
  desk : Desk

abbrev Work (α : Type) := Step Progress α

def say (line : String) : Work Unit := .of fun p => (.ok (), { p with lines := p.lines ++ [line] })

def atDesk {α : Type} (work : Desk.Work α) : Work α :=
  work.within (·.desk) fun p d => { p with desk := d }

def prepare (t : Tools) (source build : String) : Work Preparation :=
  atDesk (.of fun d =>
    match Preparation.start t d source (some build) with
    | (.error e, d) => (.error e, d)
    | (.ok app, d) =>
      let (result, b) := (Preparation.run t).outcome ⟨d, app⟩
      (result.map fun () => b.app, b.desk))

def scan (app : Preparation) : Work (List Finding) :=
  atDesk (Desk.perform fun fs =>
    match Scan.gather fs (some (if app.isSource then app.source else app.build)) with
    | .error e => (.error e, fs)
    | .ok files =>
      let (s, result) := Scan.run { fs := fs } app.manifest files
      match result.failure with
      | some e => (.error e, s.fs)
      | none => (.ok result.findings, s.fs))

/-- Takes a finding into a set, unless it is in there. It is the number under which it was collected,
not what it says, that tells whether it is. -/
def addMember (set : List (Finding × Nat)) (f : Finding × Nat) : List (Finding × Nat) :=
  if set.any fun g => g.2 == f.2 then set else set ++ [f]

def members (collected : List Finding) : List Finding :=
  (collected.zipIdx.foldl addMember []).map (·.1)

def reportOn (setup : Setup) (o : Options) (collected : List Finding) : Report :=
  Report.toDirectory setup.reports o.reportPath (members collected) o.keepReport

def report (setup : Setup) (o : Options) (findings : List Finding) : Work String :=
  atDesk (Desk.perform fun fs => (reportOn setup o findings).generate fs o.kind.name none)

def exploit (setup : Setup) (o : Options) (sdk : String) (app : Preparation)
    (findings : List Finding) : Work Unit := do
  match app.appName with
  | none => throw (Preparation.unset "apk_name")
  | some name =>
    atDesk (.of fun d =>
      let work : Exploit.Work Unit := do
        Exploit.create setup.template app.manifest findings o.buildPath name sdk
        Exploit.build setup.tools
      let (result, b) := work.outcome { desk := d }
      (result, b.desk))

/-- Writes the report on what a scan has collected, and builds an exploit if `sdk` is there. -/
def conclude (setup : Setup) (o : Options) (sdk : Option String) (app : Preparation)
    (findings : List Finding) : Work Unit := do
  say "Generating report..."
  let path ← report setup o findings
  say ("Report saved to: " ++ path)
  match sdk with
  | none => return ()
  | some sdk =>
    say "Building exploit APK..."
    exploit setup o sdk app findings
    say "Exploit APK built successfully."

def collect (setup : Setup) (o : Options) (source : String) : Work (Preparation × List Finding) := do
  say "Starting Decompilation..."
  let app ← prepare setup.tools source o.buildPath
  say "Scanning for vulnerabilities..."
  let findings ← scan app
  say "Scanning complete."
  return (app, findings)

/-- Audits the app at a path. `sdk` is there if an exploit is wanted. -/
def audit (setup : Setup) (o : Options) (source : String) (sdk : Option String) : Work Unit := do
  let (app, findings) ← collect setup o source
  conclude setup o sdk app findings

def failureLine : Failure → String
  | .stop reason => reason.message
  | e => "Error: " ++ e.message

def runOptions (setup : Setup) (o : Options) (desk : Desk) : Ended :=
  let audited (source : String) (sdk : Option String) : Ended :=
    match (audit setup o source sdk).outcome { desk := desk } with
    | (.ok (), p) => ⟨0, p.lines, p.desk⟩
    | (.error e, p) => ⟨1, p.lines ++ [failureLine e], p.desk⟩
  match o.source with
  | none => ⟨1, ["Please provide a source using --java or --apk.", helpText], desk⟩
  | some source =>
    if o.exploitApp then
      match o.sdkPath <|> setup.environment.sdkPath? desk.fs with
      | none =>
        ⟨1, ["Error: Unable to locate Android SDK. Provide SDK path using --sdk-path or set " ++
          "environment variables."], desk⟩
      | some sdk => audited source (some sdk)
    else audited source none

def usageLines (f : UsageFault) : List String :=
  (if f.showsUsage then ["Usage: qark [OPTIONS]", "Try 'qark --help' for help.", ""] else []) ++
    ["Error: " ++ f.message]

/-- Runs a command line: its exit status, the lines it prints, and the files it leaves. -/
def run (setup : Setup) (words : List String) (desk : Desk) : Ended :=
  match request desk.fs words with
  | .help => ⟨0, [helpText], desk⟩
  | .version => ⟨0, [versionText], desk⟩
  | .wrong f => ⟨2, usageLines f, desk⟩
  | .broken => ⟨1, [], desk⟩
  | .run o => runOptions setup o desk

end DroidAudit.Cli
