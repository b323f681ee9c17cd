import DroidAudit.Text.Blank
import DroidAudit.Value

/-! Findings: what a detector reports about an app. -/
namespace DroidAudit

structure Position where
  line : Nat
  column : Nat
  deriving Repr, DecidableEq, Inhabited

def Position.toValue (p : Position) : Value := .tuple [.int p.line, .int p.column]

structure Finding where
  category : Value
  name : Value
  severity : Severity
  description : Value
  line : Value := .null
  file : Value := .null
  exploit : Value := .null
  deriving Inhabited

namespace Severity

/-- The capital of a letter of a severity's name. Beyond ASCII only the dotless i has a capital
among those letters. -/
def capital (c : Char) : Char := if c == 'ı' then 'I' else c.toUpper

def ofName? (s : String) : Option Severity :=
  let word := String.ofList ((Text.trim s.toList).map capital)
  all.find? fun severity => severity.name == word

/-- A severity given as itself or by name; anything else counts as a warning. -/
def ofValue : Value → Severity
  | .severity s => s
  | .text s => (ofName? s).getD .warning
  | _ => .warning

end Severity

namespace Finding

def summary (f : Finding) : String :=
  "Issue(category=" ++ f.category.display ++ ", name=" ++ f.name.display ++
    ", severity=" ++ f.severity.name ++ ", description=" ++ f.description.display ++
    ", line_number=" ++ f.line.display ++ ", file_object=" ++ f.file.display ++
    ", apk_exploit_dict=" ++ f.exploit.display ++ ")"

def isHashable (f : Finding) : Bool :=
  f.name.isHashable && f.file.isHashable && f.line.isHashable

end Finding

def optionalText : Option String → Value
  | some s => .text s
  | none => .null

def optionalPosition : Option Position → Value
  | some p => p.toValue
  | none => .null

end DroidAudit
