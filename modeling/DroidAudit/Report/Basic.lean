import DroidAudit.Environment
import DroidAudit.Report.Page

/-! Reports: findings, the directory that the report goes to, and whether it is added to what is
there. -/
namespace DroidAudit

structure Report where
  findings : List Finding := []
  path : String
  keep : Bool := false

inductive PageKind
  | html | xml | json | csv
  deriving Repr, DecidableEq, Inhabited

namespace PageKind

def name : PageKind → String
  | html => "html"
  | xml => "xml"
  | json => "json"
  | csv => "csv"

def all : List PageKind := [html, xml, json, csv]

def ofName? (s : String) : Option PageKind := all.find? fun kind => kind.name == s

def render? : PageKind → List Finding → Option String
  | html, findings => some (Page.page findings)
  | xml, findings => some (Page.tree findings)
  | json, findings => Page.data? findings
  | csv, findings => some (Page.table findings)

end PageKind

namespace Report

def toDirectory (otherwise : String) (path : Option String) (findings : List Finding)
    (keep : Bool) : Report :=
  { findings := findings
    path := match path with
      | some p => if p.isEmpty then otherwise else p
      | none => otherwise
    keep := keep }

/-- The kind of page that a name of a layout leads to. It is a path: empty and idle steps do not
count. -/
def pageKind? (kind : String) : Option PageKind :=
  match (Path.steps kind).reverse with
  | name :: above => if above.all fun s => s == "" || s == "." then PageKind.ofName? name else none
  | [] => none

def file (r : Report) (kind : String) : String := Path.join r.path ("report." ++ kind)

/-- The page of a kind that needs no layout of one's own. -/
def renderKind (r : Report) (kind : String) : Except ReportFault String :=
  match pageKind? kind with
  | none => .error (.noLayout kind)
  | some k =>
    match k.render? r.findings with
    | none => .error .tooDeep
    | some text => .ok text

def render (r : Report) (kind : String) : Option Layout → Except ReportFault String
  | none => r.renderKind kind
  | some layout =>
    if layout.source.isEmpty then r.renderKind kind
    else
      match layout.fill r.findings with
      | .error message => .error (.badLayout message)
      | .ok page => .ok (page ++ "\n")

def render? (r : Report) (kind : String) (layout : Option Layout) : Option String :=
  (r.render kind layout).toOption

theorem render?_name (r : Report) (kind : PageKind) :
    r.render? kind.name none = kind.render? r.findings := by
  have hkind : pageKind? kind.name = some kind := by cases kind <;> rfl
  simp only [render?, render, renderKind, hkind]
  cases kind.render? r.findings <;> rfl

/-- Opens the report's file, which empties it unless the report is kept, and then writes the
page. Gives the path of the file. -/
def generate (r : Report) (fs : FileSystem) (kind : String) (layout : Option Layout) :
    Except Failure String × FileSystem :=
  match fs.makeWay r.path with
  | (.error e, fs) => (.error e, fs)
  | (.ok (), fs) =>
    match fs.writeText (r.file kind) r.keep "" with
    | .error f => (.error (.report (.file f)), fs)
    | .ok fs =>
      match r.render kind layout with
      | .error f => (.error (.report f), fs)
      | .ok text =>
        match Text.encodeFault? text with
        | some f => (.error (.report (.unencodable f)), fs)
        | none =>
          match fs.writeText (r.file kind) true text with
          | .error f => (.error (.report (.file f)), fs)
          | .ok fs => (.ok (r.file kind), fs)

end Report

/-- The reports that were given out, each under its number, and the files. There is one report for all
who ask for one. -/
structure ReportDesk where
  fs : FileSystem
  made : List Report := []
  /-- The number of the report that all are given. -/
  sole : Option Nat := none

namespace ReportDesk

/-- Gives out the report with fields of one's own, by its number. It is made for the first who asks;
for the others the same one is set anew. -/
def start (d : ReportDesk) (r : Report) : Nat × ReportDesk :=
  match d.sole with
  | some handle => (handle, { d with made := d.made.set handle r })
  | none => (d.made.length, { d with made := d.made ++ [r], sole := some d.made.length })

def generate (d : ReportDesk) (handle : Nat) (kind : String) (layout : Option Layout) :
    Except Failure String × ReportDesk :=
  match d.made[handle]? with
  | none => (.error .unsupported, d)
  | some r =>
    let (result, fs) := r.generate d.fs kind layout
    (result, { d with fs := fs })

end ReportDesk

end DroidAudit
