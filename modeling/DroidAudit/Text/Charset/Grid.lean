import DroidAudit.Text.Packed

/-! Tables of characters. -/
namespace DroidAudit.Text.Charset

/-- Characters by row and column. A full stop stands where there is none. -/
structure Grid where
  first : Nat
  rows : List String

def Grid.char? (g : Grid) (row column : Nat) : Option Char :=
  if row < g.first then none
  else
    match g.rows[row - g.first]? with
    | some line => line.toList[column]?.filter (· != '.')
    | none => none

def Grid.ofPacked (first width count : Nat) (signs : String) : Grid :=
  ⟨first, Packed.rows width count signs⟩

/-- Codes in a row that stand for characters in a row. -/
structure Run where
  code : Nat
  char : Nat
  count : Nat

def Run.ofNumbers : List Nat → List Run
  | code :: char :: count :: rest => ⟨code, char, count⟩ :: ofNumbers rest
  | _ => []

def Run.char? (r : Run) (code : Nat) : Option Char :=
  if r.code ≤ code && code < r.code + r.count then some (Char.ofNat (r.char + (code - r.code)))
  else none

def charIn? (runs : List Run) (code : Nat) : Option Char := runs.findSome? (·.char? code)

def isIn (ranges : List (Nat × Nat)) (code : Nat) : Bool :=
  ranges.any fun r => r.1 ≤ code && code ≤ r.2

end DroidAudit.Text.Charset
