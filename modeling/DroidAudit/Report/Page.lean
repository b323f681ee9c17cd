import DroidAudit.Finding.Document
import DroidAudit.Text.Lines

/-! The pages of a report: the findings of an audit as a table of two columns, as a page for
reading, as a tree of elements and as structured data. Each page ends with a line feed. -/
namespace DroidAudit

namespace Page

/-- Characters that mean something in markup are written by name or number. -/
def escapedChar : Char → List Char
  | '&' => "&amp;".toList
  | '<' => "&lt;".toList
  | '>' => "&gt;".toList
  | '\'' => "&#39;".toList
  | '"' => "&#34;".toList
  | c => [c]

def escaped (s : String) : String := String.ofList (s.toList.flatMap escapedChar)

def withoutCommas (s : String) : String := String.ofList (Text.replaceChar ',' [] s.toList)

/-- The text at a place of a sequence; nothing, if there is none. -/
def part (v : Value) (i : Nat) : String :=
  match v.element? i with
  | some e => e.display
  | none => ""

def tableRow (f : Finding) : String :=
  "\n" ++ f.severity.name ++ "," ++ withoutCommas f.name.display ++ "\n"

def table (findings : List Finding) : String :=
  "Severity,Issue Name\n" ++ String.join (findings.map tableRow) ++ "\n"

def pageHead : String :=
  Text.join "\n"
    ["<!DOCTYPE html>", "<html lang=\"en\">", "<head>", "  <meta charset=\"UTF-8\" />",
     "  <meta name=\"viewport\" content=\"width=device-width, initial-scale=1.0\" />",
     "  <title>Security Report</title>", "  <style>", "    body \x7b",
     "      font-family: Arial, sans-serif;", "      margin: 40px;",
     "      background-color: #f9f9f9;", "    \x7d", "    h1 \x7b", "      color: #2c3e50;",
     "    \x7d", "    h2 \x7b", "      color: #e74c3c;", "    \x7d", "    p \x7b",
     "      margin-bottom: 10px;", "    \x7d", "    a \x7b", "      color: #3498db;",
     "      text-decoration: none;", "    \x7d", "    a:hover \x7b",
     "      text-decoration: underline;", "    \x7d", "    .issue \x7b",
     "      border: 1px solid #ccc;", "      background-color: #fff;",
     "      margin-bottom: 20px;", "      padding: 20px;", "      border-radius: 8px;", "    \x7d",
     "    .severity \x7b", "      font-weight: bold;", "    \x7d", "  </style>", "</head>",
     "<body>",
     "  <h1>Security Issues Report</h1>", "  "]

def pagePlace (line : Value) : String :=
  if line.isPresent then
    "\n              : Line " ++ part line 0 ++ " - Column " ++ part line 1 ++ "\n            "
  else ""

def pageFile (f : Finding) : String :=
  if f.file.isPresent then
    "\n          <a href=\"file://" ++ f.file.display ++ "\">\n            " ++ f.file.display ++
      "\n            " ++ pagePlace f.line ++ "\n          </a>\n        "
  else "\n          <span>Unknown File</span>\n        "

def pageFinding (f : Finding) : String :=
  "\n    <div class=\"issue\">\n      <h2>" ++ f.severity.name ++ ": " ++ f.name.display ++
    "</h2>\n      <p class=\"severity\">Severity: " ++ f.severity.name ++
    "</p>\n      <p>Description: " ++ f.description.display ++
    "</p>\n      <p>\n        File: \n        " ++ pageFile f ++ "\n      </p>\n    </div>\n    "

def page (findings : List Finding) : String :=
  let body :=
    if findings.isEmpty then "\n    <p>No issues found.</p>\n  "
    else "\n    " ++ String.join (findings.map pageFinding) ++ "\n  "
  pageHead ++ body ++ "\n</body>\n</html>\n"

def treePlace (line : Value) : String :=
  if line.isPresent then
    "\n        <line>" ++ part line 0 ++ "</line>\n        <column>" ++ part line 1 ++
      "</column>\n        "
  else ""

def treeFile (f : Finding) : String :=
  if f.file.isPresent then
    "\n      <file>\n        <path>" ++ escaped f.file.display ++ "</path>\n        " ++
      treePlace f.line ++ "\n      </file>\n      "
  else ""

def treeFinding (f : Finding) : String :=
  "\n    <issue id=\"unknown\">\n      <severity>" ++ escaped f.severity.name ++
    "</severity>\n      <name>" ++ escaped f.name.display ++
    "</name>\n      <description>" ++ escaped f.description.display ++
    "</description>\n      " ++ treeFile f ++ "\n    </issue>\n    "

def tree (findings : List Finding) : String :=
  let body :=
    if findings.isEmpty then "\n    <message>No issues found</message>\n  "
    else "\n    " ++ String.join (findings.map treeFinding) ++ "\n  "
  "<?xml version=\"1.0\" encoding=\"UTF-8\"?>\n<issues>\n  " ++ body ++ "\n</issues>\n"

/-- There is no such page if the findings are nested too deep. -/
def data? (findings : List Finding) : Option String := (findingsText? findings).map (· ++ "\n")

end Page

/-- A layout of one's own: its text, and what it makes of findings, which is a page or a message
that says why there is none. -/
structure Layout where
  source : String
  fill : List Finding → Except String String

namespace Layout

/-- Where a layout wants the number of findings: the length of the issues between double braces,
with blanks as one likes. Gives what follows. -/
def afterCount? (cs : List Char) : Option (List Char) := do
  let word (w : String) (cs : List Char) : Option (List Char) :=
    Text.after? w.toList (cs.dropWhile Text.isBlank)
  let behindIssues ← word "issues" (← Text.after? "\x7b\x7b".toList cs)
  word "\x7d\x7d" (← word "length" (← word "|" behindIssues))

/-- Fills in the number of findings, after leaving out `skip` characters. -/
def fillCount (count : Nat) : Nat → List Char → List Char
  | _, [] => []
  | skip + 1, _ :: cs => fillCount count skip cs
  | 0, c :: cs =>
    match afterCount? (c :: cs) with
    | some rest => (toString count).toList ++ fillCount count (cs.length - rest.length) cs
    | none => c :: fillCount count 0 cs

/-- A text loses the line feed at its end, if it has one. -/
def withoutLastNewline (cs : List Char) : List Char :=
  match cs.reverse with
  | '\n' :: rest => rest.reverse
  | _ => cs

/-- A layout in which nothing is to be filled in but the number of findings. -/
def counting (source : String) : Layout where
  source := source
  fill := fun findings => .ok (String.ofList
    (fillCount findings.length 0 (withoutLastNewline (Text.unifyNewlines source.toList))))

end Layout
end DroidAudit
