import DroidAudit.Failure

/-! Environment variables that hold paths, and the way to a path. -/
namespace DroidAudit

abbrev Environment := List (String × String)

namespace Environment

def get? (env : Environment) (name : String) : Option String :=
  (env.find? (·.1 == name)).map (·.2)

def holdsPath (env : Environment) (fs : FileSystem) (name : String) : Bool :=
  (env.get? name).any fun path => !path.isEmpty && fs.exists? path

/-- The variables that may hold the path of the development kit, the preferred one first. -/
def sdkVariables : List String := ["ANDROID_SDK_HOME", "ANDROID_HOME", "ANDROID_SDK_ROOT"]

def sdkPath? (env : Environment) (fs : FileSystem) : Option String :=
  (sdkVariables.find? (env.holdsPath fs)).bind env.get?

end Environment

def FileSystem.makeWay (fs : FileSystem) (path : String) :
    Except Failure Unit × FileSystem :=
  let above := Path.directory path
  if above.isEmpty || fs.exists? above then (.ok (), fs)
  else
    match fs.makeDirectories above with
    | (.ok (), fs) => (.ok (), fs)
    | (.error f, fs) =>
      (.error
        (if f.cause.isOfPath then .badPath f
        else if f.cause = .tooDeep then .tooDeep
        else .directoryNotMade), fs)

end DroidAudit
