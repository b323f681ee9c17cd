import DroidAudit.Text.Blank
import DroidAudit.Text.Digit
import DroidAudit.Text.Quoted
import DroidAudit.Text.Search

/-! Whole numbers in text. A number may stand between blanks and carry a sign; its digits may
be those of any script, and single low lines may stand between them. -/
namespace DroidAudit.Text

inductive IntegerError
  | malformed (text : String)
  | tooLong (digits : Nat)
  deriving Repr, DecidableEq

def quotedInShort (text : String) : String := String.ofList ((quoted text).toList.take 200)

def IntegerError.message : IntegerError → String
  | .malformed text => "invalid literal for int() with base 10: " ++ quotedInShort text
  | .tooLong digits =>
    "Exceeds the limit (4300 digits) for integer string conversion: value has " ++
      toString digits ++ " digits; use sys.set_int_max_str_digits() to increase the limit"

def maxIntegerDigits : Nat := 4300

/-- A number with the digits and blanks of all scripts as those of ASCII. -/
def plainNumber (cs : List Char) : List Char :=
  cs.map fun c =>
    if c.toNat < 128 then c
    else
      match decimalValue? c with
      | some d => Char.ofNat (48 + d)
      | none => if isBlank c then ' ' else c

def isNumberBlank (c : Char) : Bool := c == ' ' || (9 ≤ c.toNat && c.toNat ≤ 13)

def trimNumber (cs : List Char) : List Char :=
  ((cs.dropWhile isNumberBlank).reverse.dropWhile isNumberBlank).reverse

def cutSign : List Char → Bool × List Char
  | '-' :: rest => (true, rest)
  | '+' :: rest => (false, rest)
  | rest => (false, rest)

/-- Digits and low lines, of which single ones may stand between two digits. -/
def isSpaced (run : List Char) : Bool := (splitAt '_' run).all (!·.isEmpty)

def valueOfDigits (ds : List Char) : Nat := ds.foldl (fun n d => 10 * n + (d.toNat - 48)) 0

/-- Reads a whole number. That it has too many digits is seen before what follows them. -/
def readInteger (text : String) : Except IntegerError Int :=
  let (negative, body) := cutSign (trimNumber (plainNumber text.toList))
  let run := body.takeWhile fun c => c.isDigit || c == '_'
  let digits := run.filter (· != '_')
  if !isSpaced run then .error (.malformed text)
  else if maxIntegerDigits < digits.length then .error (.tooLong digits.length)
  else if run.length != body.length then .error (.malformed text)
  else .ok (if negative then -(valueOfDigits digits : Int) else valueOfDigits digits)

end DroidAudit.Text
