import DroidAudit.Cli.Run

/-! The program. It reads what the command line mentions, runs it on that copy of the files, prints
what there is to say, and writes back the files that are new or changed. External programs are not
started from here. -/
namespace DroidAudit.Program

def mentioned (words : List String) : List String :=
  words.map fun w => (Cli.cutValue w).2.getD w

partial def load (fs : FileSystem) (path : String) : IO FileSystem := do
  let place := (← IO.currentDir) / path
  if ← place.isDir then
    let mut fs := (fs.ensureDirectories path).2
    for e in ← place.readDir do
      fs ← load fs (Path.join path e.fileName)
    return fs
  else if ← place.pathExists then
    let fs := (fs.ensureDirectories (Path.directory (fs.absolute path))).2
    match fs.writeBytes path false (← IO.FS.readBinFile place) with
    | .ok fs => return fs
    | .error _ => return fs
  else
    return fs

/-- Writes the files of `new` that `old` does not hold. -/
def store (old new : FileSystem) : IO Unit := do
  for (path, leaf) in FileSystem.Entry.leaves "" new.root do
    let target := "/" ++ path
    match leaf, old.readBytes target with
    | some (.file bytes _), .ok before =>
      if bytes.data != before.data then IO.FS.writeBinFile target bytes
    | some (.file bytes _), .error _ =>
      IO.FS.createDirAll (Path.directory target)
      IO.FS.writeBinFile target bytes
    | none, _ => if !old.isDirectory target then IO.FS.createDirAll target
    | _, _ => pure ()

def noPrograms : String := "external programs are not started from here"

def environment : IO Environment := do
  let mut found := []
  for name in Environment.sdkVariables do
    if let some value ← IO.getEnv name then found := found ++ [(name, value)]
  return found

def setup (environment : Environment) : Cli.Setup where
  tools :=
    { converter := "lib/dex2jar-2.0"
      unpacker := "lib/apktool"
      decompilers := "lib/decompilers"
      javaVersion := .error noPrograms
      run := fun _ fs => (.error noPrograms, fs) }
  environment := environment
  reports := "report/"
  template := "exploit_apk"

end DroidAudit.Program

open DroidAudit in
def main (words : List String) : IO UInt32 := do
  let setup := Program.setup (← Program.environment)
  let working := (Path.steps (toString (← IO.currentDir))).filter (!·.isEmpty)
  let paths := Program.mentioned words ++ setup.environment.map (·.2) ++
    [Cli.defaultBuild, setup.reports, setup.template, "lib"]
  let mut files := FileSystem.empty working
  for path in paths do
    files ← Program.load files path
  let ended := Cli.run setup words { fs := files }
  for line in ended.lines do
    IO.println line
  Program.store files ended.desk.fs
  return ended.status.toUInt32
