import DroidAudit.Text.Decoder

/-! Text in which a backslash and letters or digits stand for a character. All other bytes are
characters by their number. -/
namespace DroidAudit.Text.Escaped

def hexDigit? (b : UInt8) : Option Nat :=
  let n := b.toNat
  if 0x30 ≤ n && n ≤ 0x39 then some (n - 0x30)
  else if 0x61 ≤ n && n ≤ 0x66 then some (n - 0x57)
  else if 0x41 ≤ n && n ≤ 0x46 then some (n - 0x37)
  else none

/-- The character that `count` digits name, `read` bytes behind the backslash. -/
def hexChar (read : Nat) : Nat → Nat → Nat → List UInt8 → Head Unit
  | size, value, 0, _ =>
    if value < 0x110000 then .chars (ofPoint value) (read + size) () else .fault
  | _, _, _ + 1, [] => .cutOff
  | size, value, count + 1, b :: rest =>
    match hexDigit? b with
    | some d => hexChar read (size + 1) (16 * value + d) count rest
    | none => .fault

def isOctal (b : UInt8) : Bool := 0x30 ≤ b && b ≤ 0x37

def octalChar (bytes : List UInt8) : Head Unit :=
  let digits := (bytes.take 3).takeWhile isOctal
  let value := digits.foldl (fun n d => 8 * n + (d.toNat - 0x30)) 0
  .chars [Char.ofNat value] (digits.length + 1) ()

def letterChars? (b : UInt8) : Option (List Char) :=
  match Char.ofNat b.toNat with
  | '\n' => some []
  | '\\' => some ['\\']
  | '\'' => some ['\'']
  | '"' => some ['"']
  | 'b' => some ['\x08']
  | 't' => some ['\t']
  | 'n' => some ['\n']
  | 'r' => some ['\r']
  | 'f' => some ['\x0c']
  | 'v' => some ['\x0b']
  | 'a' => some ['\x07']
  | _ => none

/-- All kinds of escapes. A name in braces is not known. -/
def full : List UInt8 → Head Unit
  | [] => .cutOff
  | [0x5c] => .cutOff
  | 0x5c :: b :: rest =>
    match letterChars? b with
    | some cs => .chars cs 2 ()
    | none =>
      if isOctal b then octalChar (b :: rest)
      else if b == 0x78 then hexChar 2 0 0 2 rest
      else if b == 0x75 then hexChar 2 0 0 4 rest
      else if b == 0x55 then hexChar 2 0 0 8 rest
      else if b == 0x4e then .fault
      else .chars ['\\', Char.ofNat b.toNat] 2 ()
  | b :: _ => .chars [Char.ofNat b.toNat] 1 ()

def raw (final : Bool) : List UInt8 → Head Unit
  | [] => .cutOff
  | [0x5c] => if final then .chars ['\\'] 1 () else .cutOff
  | 0x5c :: b :: rest =>
    if b == 0x75 then hexChar 2 0 0 4 rest
    else if b == 0x55 then hexChar 2 0 0 8 rest
    else .chars ['\\', Char.ofNat b.toNat] 2 ()
  | b :: _ => .chars [Char.ofNat b.toNat] 1 ()

end DroidAudit.Text.Escaped
