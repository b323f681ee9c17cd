import DroidAudit.Command.Words
import DroidAudit.FileSystem.Operations
import DroidAudit.Java.Source
import DroidAudit.Xml.DocumentType
import DroidAudit.Xml.Encoding

/-! Why a step of an audit fails. -/
namespace DroidAudit

inductive StopReason
  | noResourceFile (path : String)
  | badResourceFile (path : String)
  | notExtracted (detail : String)
  | converterFailed
  | converterBroken (detail : String)
  | unpackerBroken (detail : String)
  | noJava (detail : String)
  | oldJava
  | unsupportedSystem (name : String)
  | templateNotCopied (template target : String)
  | manifestNotRead (path : String)
  deriving Repr, DecidableEq

def StopReason.message : StopReason → String
  | noResourceFile path => "XML file '" ++ path ++ "' does not exist."
  | badResourceFile path => "Error parsing XML file: " ++ path
  | notExtracted detail => "Failed to extract zipped APK: " ++ detail
  | converterFailed => "Error running dex2jar"
  | converterBroken detail => "Error running dex2jar command: " ++ detail
  | unpackerBroken detail => "Failed to run APKTool: " ++ detail
  | noJava detail => "Error getting java version, is Java installed?: " ++ detail
  | oldJava => "Java version of 1.7 or higher is required to run apktool"
  | unsupportedSystem name =>
    "('OS %s is not supported, please use Linux, Windows, or Mac OSX', " ++ Text.quoted name ++ ")"
  | templateNotCopied template target => "Failed to copy " ++ template ++ " to " ++ target
  | manifestNotRead path => "Failed to read manifest file at " ++ path

/-- A file that one step of the preparation should have left for the next. -/
inductive Artifact
  | dexFile | jarFile | converterScript | manifestFile
  deriving Repr, DecidableEq

def Artifact.missing (path : String) : Artifact → String
  | dexFile => "Dex file not found at " ++ path
  | jarFile => "JAR file not created at " ++ path
  | converterScript => "Dex2jar script " ++ path ++ " does not exist"
  | manifestFile => "Manifest file " ++ path ++ " does not exist"

inductive ReportFault
  | noLayout (kind : String)
  /-- A layout that a user brought gives no page, and says why. -/
  | badLayout (message : String)
  | tooDeep
  | file (f : FileSystem.Fault)
  | unencodable (f : Text.EncodeFault)
  deriving Repr, DecidableEq

def ReportFault.message : ReportFault → String
  | noLayout kind => "Failed to generate report: " ++ kind ++ "_report.jinja"
  | badLayout message => "Failed to generate report: " ++ message
  | tooDeep => "Failed to generate report: maximum recursion depth exceeded"
  | file f => "Failed to generate report: " ++ f.message
  | unencodable f => "Failed to generate report: " ++ f.message

inductive PropertiesFault
  | unreadableLine
  | repeatedKey
  | repeatedSection
  deriving Repr, DecidableEq

inductive Need
  | path
  /-- A text to search. -/
  | text
  /-- Something to go through. -/
  | items
  /-- A name whose ending is looked at. -/
  | ending
  /-- A name whose case does not matter. -/
  | name
  /-- A text to cut into pieces. -/
  | contents
  | imports
  | nodes
  | document
  | version
  deriving Repr, DecidableEq

def Need.message : Need → String
  | path => "no path was given"
  | text => "no text was given"
  | items => "no list was given"
  | ending => "'NoneType' object has no attribute 'endswith'"
  | name => "no name was given"
  | contents => "no contents were read"
  | imports => "no imports were read"
  | nodes => "no tree was read"
  | document => "no document was read"
  | version => "'NoneType' object has no attribute 'group'"

inductive Failure
  /-- Nothing was given where something is needed. -/
  | absent (need : Need)
  /-- An operation met a value of a sort that it cannot work on. -/
  | unsuited
  /-- Something was asked for what it does not offer. -/
  | unsupported
  /-- A part that was asked for was never set. -/
  | lacksPart (owner part : String)
  /-- A table has no entry for a key. -/
  | noEntry (key : String)
  /-- An observer to be removed was never registered. -/
  | notRegistered
  /-- A directory cannot be made. -/
  | directoryNotMade
  /-- A text breaks the query that it is part of. -/
  | brokenQuery
  /-- A document or a tree is nested too deep to be gone through. -/
  | tooDeep
  /-- What should be audited is no app, directory or Java file. -/
  | invalidSource
  | missing (artifact : Artifact) (path : String)
  | report (f : ReportFault)
  | properties (f : PropertiesFault)
  | words (f : Command.WordsFault)
  /-- A tool ended with a status that is not zero. -/
  | toolFailed (line : List String) (status : Nat)
  /-- A tool could not be run. -/
  | toolBroken (message : String)
  | stop (reason : StopReason)
  | undecodable (f : Text.DecodeFault)
  | file (f : FileSystem.Fault)
  /-- A path that cannot be given to the files. -/
  | badPath (f : FileSystem.Fault)
  /-- A text that has no bytes. -/
  | unencodable (f : Text.EncodeFault)
  | source (e : Java.SourceError)
  | number (e : Text.IntegerError)
  | document (way : Xml.Way) (e : Xml.Error)
  deriving Repr, DecidableEq

namespace Failure

def message : Failure → String
  | absent need => need.message
  | unsuited => "unsuitable value"
  | unsupported => "unsupported request"
  | lacksPart owner part => "'" ++ owner ++ "' object has no attribute '" ++ part ++ "'"
  | noEntry key => Text.quoted key
  | notRegistered => "list.remove(x): x not in list"
  | directoryNotMade => "module 'os' has no attribute 'errno'"
  | brokenQuery => "invalid predicate"
  | tooDeep => "maximum recursion depth exceeded"
  | invalidSource => "Invalid path, path must be to an APK, directory, or a Java file"
  | missing artifact path => artifact.missing path
  | report f => f.message
  | properties _ => ""
  | words f => f.message
  | toolFailed line status =>
    "Command '[" ++ Text.join ", " (line.map Text.quoted) ++
      "]' returned non-zero exit status " ++ toString status ++ "."
  | toolBroken message => message
  | stop reason => reason.message
  | undecodable f => f.message
  | file f => f.message
  | badPath f => f.message
  | unencodable f => f.message
  | source (.lexical e) => e.message
  | source (.grammar .endsInExpression) =>
    "'in <string>' requires string as left operand, not NoneType"
  | source (.grammar .tooDeep) => "maximum recursion depth exceeded"
  | source (.grammar _) => ""
  | number e => e.message
  | document _ e => e.message

def ofFault (f : FileSystem.Fault) : Failure := if f.cause.isOfPath then .badPath f else .file f

end Failure

namespace FileSystem

def bytesAt (fs : FileSystem) (path : Option String) : Except Failure ByteArray :=
  match path with
  | none => .error (.absent .path)
  | some path => (fs.readBytes path).mapError .ofFault

def textAt (fs : FileSystem) (path : Option String) : Except Failure String := do
  let bytes ← fs.bytesAt path
  match Text.utf8Fault bytes with
  | some f => .error (.undecodable f)
  | none =>
    .ok (String.ofList (Text.unifyNewlines (Text.utf8Text bytes).toList))

end FileSystem

end DroidAudit
