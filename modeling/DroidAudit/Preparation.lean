import DroidAudit.Archive.Extract
import DroidAudit.JavaVersion

/-! Preparing an app for the audit. Java sources are taken as they are. The archive of an app is
extracted, its code is converted, its manifest is decoded, and then decompilers write sources. -/
namespace DroidAudit

inductive CommandSlot
  | tool | jar | build
  deriving Repr, DecidableEq

namespace CommandSlot

def name : CommandSlot → String
  | tool => "path_to_decompiler"
  | jar => "jar"
  | build => "build_directory"

end CommandSlot

inductive CommandPart
  | text (s : String)
  | slot (s : CommandSlot)
  deriving Repr, DecidableEq

structure Decompiler where
  name : String
  file : String
  command : List CommandPart
  deriving Repr, DecidableEq

namespace Decompiler

def all : List Decompiler :=
  [⟨"cfr", "cfr_0_124.jar",
    [.text "java -jar ", .slot .tool, .text " ", .slot .jar, .text " --outputdir ", .slot .build,
     .text "/cfr"]⟩,
   ⟨"procyon", "procyon-decompiler-1.0.jar",
    [.text "java -jar ", .slot .tool, .text " ", .slot .jar, .text " -o ", .slot .build,
     .text "/procyon"]⟩,
   ⟨"fernflower", "fernflower.jar",
    [.text "java -jar ", .slot .tool, .text " -ren=1 ", .slot .jar, .text " ", .slot .build,
     .text "/fernflower"]⟩]

/-- The command line with the names of what is left open in braces. -/
def pattern (d : Decompiler) : String :=
  String.join (d.command.map fun
    | .text s => s
    | .slot s => "\x7b" ++ s.name ++ "\x7d")

def path (d : Decompiler) (t : Tools) : String := Path.join t.decompilers d.file

def commandLine (d : Decompiler) (t : Tools) (jar build : String) : String :=
  String.join (d.command.map fun
    | .text s => s
    | .slot .tool => d.path t
    | .slot .jar => jar
    | .slot .build => build)

end Decompiler

/-- An app on its way to the audit. Sources have no name, code or jar; those of an archive can be
set to nothing, and are made again when they are needed. -/
structure Preparation where
  source : String
  build : String
  isSource : Bool
  manifest : Option String := none
  appName : Option String := none
  dex : Option (Option String) := none
  jar : Option (Option String) := none
  decompilers : Option (List Decompiler) := none
  deriving Repr

/-- Files and calls together with the app that they belong to. -/
structure Workbench where
  desk : Desk
  app : Preparation

namespace Preparation

abbrev Work (α : Type) := Step Workbench α

def atDesk {α : Type} (work : Desk.Work α) : Work α :=
  work.within (·.desk) fun b d => { b with desk := d }

def app : Work Preparation := .of fun b => (.ok b.app, b)

def update (f : Preparation → Preparation) : Work Unit :=
  .of fun b => (.ok (), { b with app := f b.app })

def unset (part : String) : Failure := .lacksPart "Decompiler" part

def demand {α : Type} (part : String) (get : Preparation → Option α) : Work α := do
  match get (← app) with
  | some a => return a
  | none => throw (unset part)

def extract (path destination : String) : Desk.Work Unit := do
  Desk.needDirectory destination
  Desk.perform fun fs =>
    let (result, fs) := Archive.extract fs path destination
    (result.mapError fun f => .stop (.notExtracted f.message), fs)

def unpack : Work String := do
  let p ← app
  atDesk do
    extract p.source p.build
    let dex := Path.join p.build "classes.dex"
    if !(← Desk.look (·.isFile dex)) then throw (.missing .dexFile dex)
    return dex

def makeExecutable (t : Tools) (path : String) : Desk.Work Unit :=
  Desk.change (·.makeExecutable (t.escaped path))

def converterScript (t : Tools) : String := Path.join t.converter "d2j-dex2jar.sh"

def converterLine (t : Tools) (dex build name : String) : String :=
  t.escaped (converterScript t ++ " " ++ dex ++ " -o " ++ Path.join build name ++ ".jar")

/-- Starts the converter; whatever keeps it from running stops the program. -/
def startConverter (t : Tools) (line : String) : Desk.Work Unit :=
  .of fun d =>
    match (Desk.startLine t line true).outcome d with
    | (.error e, d) => (.error (.stop (.converterBroken e.message)), d)
    | (.ok status, d) =>
      (if status = 0 then .ok () else .error (.stop .converterFailed), d)

def convert (t : Tools) : Work String := do
  if (← demand "dex_path" (·.dex)).all (·.isEmpty) then
    let dex ← unpack
    update fun p => { p with dex := some (some dex) }
  atDesk do
    makeExecutable t (converterScript t)
    makeExecutable t (Path.join t.converter "d2j_invoke.sh")
    if !(← Desk.look (·.isFile (converterScript t))) then
      throw (.missing .converterScript (converterScript t))
  let p ← app
  let dex := (p.dex.getD none).getD ""
  atDesk (Desk.performFiles (·.ensureDirectories (Path.directory dex)))
  let name ← demand "apk_name" (·.appName)
  atDesk do
    Desk.performFiles (·.ensureDirectories (Path.directory (Path.join p.build name)))
    startConverter t (converterLine t dex p.build name)
    let jar := Path.join p.build (name ++ ".jar")
    if !(← Desk.look (·.isFile jar)) then throw (.missing .jarFile jar)
    return jar

def supportedSystems : List String := ["linux", "windows", "darwin"]

def unpackerLine (t : Tools) (source results : String) : String :=
  t.escaped ("java -Djava.awt.headless=true -jar " ++ t.unpacker ++ "/apktool.jar d " ++ source ++
    " --no-src --force -m --output " ++ results)

/-- Starts the unpacker; its exit status does not matter. -/
def startUnpacker (t : Tools) (line : String) : Desk.Work Unit :=
  .of fun d =>
    match (Desk.startLine t line false).outcome d with
    | (.error e, d) => (.error (.stop (.unpackerBroken e.message)), d)
    | (.ok _, d) => (.ok (), d)

def readyUnpacker (t : Tools) (results : String) : Desk.Work Unit := do
  JavaVersion.gate t
  let system := Text.lower t.system
  if !supportedSystems.contains system then throw (.stop (.unsupportedSystem system))
  (makeExecutable t (Path.join t.unpacker "apktool.jar")).attempt
  Desk.needDirectory results

def takeManifest (results place : String) : Desk.Work Unit := do
  let decoded := Path.join results "AndroidManifest.xml"
  if !(← Desk.look (·.isFile decoded)) then throw (.missing .manifestFile decoded)
  Desk.change (·.moveFile decoded place)
  (Desk.change (·.removeTree results)).attempt

def decodeManifest (t : Tools) : Work String := do
  let p ← app
  let results := Path.join p.build "apktool"
  let place := Path.join p.build "AndroidManifest.xml"
  atDesk (readyUnpacker t results)
  atDesk (startUnpacker t (unpackerLine t p.source results))
  atDesk (takeManifest results place)
  return place

/-- Runs one decompiler; it does not matter whether it succeeds. -/
def decompile (t : Tools) (d : Decompiler) : Work Unit := do
  if (← demand "jar_path" (·.jar)).all (·.isEmpty) then
    let jar ← convert t
    update fun p => { p with jar := some (some jar) }
  let p ← app
  let line := t.escaped (d.commandLine t ((p.jar.getD none).getD "None") p.build)
  atDesk (Step.attempt (discard (Desk.startLine t line false)))

def unpackJar (t : Tools) (build jar : String) : Desk.Work Unit := do
  let before ← Desk.look (·.workingPath)
  let work : Desk.Work Unit := do
    Desk.change (·.changeDirectory (Path.join build "fernflower"))
    discard (Desk.start t ["jar", "xf", jar] false)
  work.attempt.thenAlways (Desk.change (·.changeDirectory before))

def decompileAll (t : Tools) : List Decompiler → Work Unit
  | [] => return ()
  | d :: rest => do
    let p ← app
    atDesk (Desk.needDirectory (Path.join p.build d.name))
    (decompile t d).attempt
    decompileAll t rest

/-- Decompiles an app; there is nothing to do for sources. -/
def run (t : Tools) : Work Unit := do
  if (← app).isSource then return ()
  decompileAll t (← demand "decompilers" (·.decompilers))
  match ← demand "jar_path" (·.jar) with
  | none => throw (.absent .path)
  | some jar => atDesk (unpackJar t (← app).build (Path.name jar))

def extensions : List String := [".java", ".apk"]

def given (fs : FileSystem) (source : String) (build : Option String) : Preparation :=
  let above := match build with
    | some b => if b.isEmpty then Path.directory (fs.absolute source) else b
    | none => Path.directory (fs.absolute source)
  { source := source
    build := Path.join above "qark"
    isSource := fs.isDirectory source || Path.isJavaFile source }

def prepare (t : Tools) : Work Unit := do
  let p ← app
  if p.isSource then return ()
  update fun p => { p with appName := some (Path.cutExtension (Path.name p.source)).1 }
  let dex ← unpack
  update fun p => { p with dex := some (some dex) }
  let jar ← convert t
  update fun p => { p with jar := some (some jar) }
  let manifest ← decodeManifest t
  update fun p =>
    { p with manifest := some manifest, decompilers := some Decompiler.all }

def isAcceptable (fs : FileSystem) (source : String) : Bool :=
  fs.exists? source &&
    !(fs.isFile source && !extensions.contains (Path.extension (Text.lower source)))

def start (t : Tools) (desk : Desk) (source : String) (build : Option String) :
    Except Failure Preparation × Desk :=
  if !isAcceptable desk.fs source then (.error .invalidSource, desk)
  else
    let (result, b) := (prepare t).outcome ⟨desk, given desk.fs source build⟩
    (result.map fun () => b.app, b.desk)

end Preparation

end DroidAudit
