import DroidAudit.Decimal.Shortest
import DroidAudit.Text.Quoted

/-! Structured data: the values a report can hold when it is written as text. The entries of an
object keep their order. -/
namespace DroidAudit

inductive Json
  | null
  | bool (b : Bool)
  | int (n : Int)
  | real (x : Float)
  | text (s : String)
  | array (items : List Json)
  | object (entries : List (String × Json))
  deriving Inhabited

namespace Json

def get? : Json → String → Option Json
  | .object entries, key => (entries.find? fun e => e.1 == key).map (·.2)
  | _, _ => none

/-! Writing structured data. Text is kept within printable ASCII; what lies outside is escaped as
one or two units of sixteen bits, and half of a pair as the unit that it is. -/

def unitEscape (n : Nat) : List Char := '\\' :: 'u' :: Text.hexDigits 4 n

def escapedPoint (n : Nat) : List Char :=
  if n = 34 then ['\\', '"']
  else if n = 92 then ['\\', '\\']
  else if n = 10 then ['\\', 'n']
  else if n = 13 then ['\\', 'r']
  else if n = 9 then ['\\', 't']
  else if n = 12 then ['\\', 'f']
  else if n = 8 then ['\\', 'b']
  else if 32 ≤ n && n < 127 then [Char.ofNat n]
  else if n < 0x10000 then unitEscape n
  else
    unitEscape (0xD800 + (n - 0x10000) / 0x400) ++ unitEscape (0xDC00 + (n - 0x10000) % 0x400)

def textChars (s : String) : List Char :=
  '"' :: (Text.points s.toList).flatMap escapedPoint ++ ['"']

def quoteText (s : String) : String := String.ofList (textChars s)

def realText (x : Float) : String :=
  match Decimal.text x with
  | "nan" => "NaN"
  | "inf" => "Infinity"
  | "-inf" => "-Infinity"
  | t => t

def spaces (n : Nat) : String := String.ofList (List.replicate n ' ')

mutual

/-- Lays a value out over several lines, each level `step` blanks further in. -/
def layoutAt (step depth : Nat) : Json → String
  | .null => "null"
  | .bool b => if b then "true" else "false"
  | .int n => toString n
  | .real x => realText x
  | .text s => quoteText s
  | .array [] => "[]"
  | .array (v :: vs) =>
    "[\n" ++ spaces (step * (depth + 1)) ++ layoutAt step (depth + 1) v ++
      layoutItems step (depth + 1) vs ++ "\n" ++ spaces (step * depth) ++ "]"
  | .object [] => "\x7b\x7d"
  | .object ((k, v) :: es) =>
    "\x7b\n" ++ spaces (step * (depth + 1)) ++ quoteText k ++ ": " ++ layoutAt step (depth + 1) v ++
      layoutEntries step (depth + 1) es ++ "\n" ++ spaces (step * depth) ++ "\x7d"

def layoutItems (step depth : Nat) : List Json → String
  | [] => ""
  | v :: vs =>
    ",\n" ++ spaces (step * depth) ++ layoutAt step depth v ++ layoutItems step depth vs

def layoutEntries (step depth : Nat) : List (String × Json) → String
  | [] => ""
  | (k, v) :: es =>
    ",\n" ++ spaces (step * depth) ++ quoteText k ++ ": " ++ layoutAt step depth v ++
      layoutEntries step depth es

end

def layout (j : Json) : String := layoutAt 4 0 j

mutual

/-- Writes a value on one line, with a blank after every comma and colon. -/
def line : Json → String
  | .null => "null"
  | .bool b => if b then "true" else "false"
  | .int n => toString n
  | .real x => realText x
  | .text s => quoteText s
  | .array [] => "[]"
  | .array (v :: vs) => "[" ++ line v ++ lineItems vs ++ "]"
  | .object [] => "\x7b\x7d"
  | .object ((k, v) :: es) =>
    "\x7b" ++ quoteText k ++ ": " ++ line v ++ lineEntries es ++ "\x7d"

def lineItems : List Json → String
  | [] => ""
  | v :: vs => ", " ++ line v ++ lineItems vs

def lineEntries : List (String × Json) → String
  | [] => ""
  | (k, v) :: es => ", " ++ quoteText k ++ ": " ++ line v ++ lineEntries es

end

end Json
end DroidAudit
