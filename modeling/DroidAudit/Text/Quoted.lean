import DroidAudit.Text.Half
import DroidAudit.Text.Printable

/-! Text between quotes, with escapes for what cannot be shown. -/
namespace DroidAudit.Text

def hexDigit (n : Nat) : Char :=
  if n < 10 then Char.ofNat (48 + n) else Char.ofNat (87 + n)

/-- The last `width` hexadecimal digits of a number. -/
def hexDigits : Nat → Nat → List Char
  | 0, _ => []
  | width + 1, n => hexDigits width (n / 16) ++ [hexDigit (n % 16)]

/-- A backslash escape with two, four or eight digits, as the code point needs. -/
def hexEscape (n : Nat) : List Char :=
  if n < 0x100 then ['\\', 'x'] ++ hexDigits 2 n
  else if n < 0x10000 then ['\\', 'u'] ++ hexDigits 4 n
  else ['\\', 'U'] ++ hexDigits 8 n

def quotedPoint (quote : Char) (n : Nat) : List Char :=
  let c := Char.ofNat n
  if c == quote || c == '\\' then ['\\', c]
  else if c == '\n' then ['\\', 'n']
  else if c == '\r' then ['\\', 'r']
  else if c == '\t' then ['\\', 't']
  else if !isHalf n && isPrintable c then [c]
  else hexEscape n

/-- Single quotes, unless the text holds a single quote and no double one. -/
def quoteFor (cs : List Char) : Char :=
  if cs.contains '\'' && !cs.contains '"' then '"' else '\''

def quotedChars (cs : List Char) : List Char :=
  quoteFor cs :: (points cs).flatMap (quotedPoint (quoteFor cs)) ++ [quoteFor cs]

def quoted (s : String) : String := String.ofList (quotedChars s.toList)

def asciiPoint (n : Nat) : List Char :=
  if n = 92 then ['\\', '\\']
  else if n = 10 then ['\\', 'n']
  else if n = 13 then ['\\', 'r']
  else if n = 9 then ['\\', 't']
  else if 32 ≤ n && n < 127 then [Char.ofNat n]
  else hexEscape n

/-- Backslashes, line ends, tabs and everything outside printable ASCII become escapes. -/
def asciiEscaped (cs : List Char) : List Char := (points cs).flatMap asciiPoint

def quotedBytes (bytes : List UInt8) : String :=
  let cs := bytes.map fun b => Char.ofNat b.toNat
  let quote := quoteFor cs
  String.ofList ('b' :: quote ::
    cs.flatMap (fun c => if c == quote then ['\\', c] else asciiPoint c.toNat) ++ [quote])

end DroidAudit.Text
