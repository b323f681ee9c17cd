import DroidAudit.Text.Decoder
import DroidAudit.Text.HostName
import DroidAudit.Text.Search

/-! Punycode: the characters beyond ASCII are written behind the others, as distances between the
places where they are put in. Labels of host names that start with `xn--` are written so. -/
namespace DroidAudit.Text.Punycode

/-- A digit below this one is the last of a number. -/
def threshold (j bias : Nat) : Nat :=
  let n := 36 * (j + 1) - bias
  if n < 1 then 1 else if 26 < n then 26 else n

def digit? (c : Char) : Option Nat :=
  let n := c.toNat
  if 0x41 ≤ n && n ≤ 0x5a then some (n - 0x41)
  else if 0x61 ≤ n && n ≤ 0x7a then some (n - 0x61)
  else if 0x30 ≤ n && n ≤ 0x39 then some (n - 22)
  else none

def number? (bias : Nat) : Nat → Nat → Nat → List Char → Option (Nat × List Char)
  | _, _, _, [] => none
  | j, weight, value, c :: cs =>
    match digit? c with
    | none => none
    | some d =>
      let t := threshold j bias
      let value := value + d * weight
      if d < t then some (value, cs) else number? bias (j + 1) (weight * (36 - t)) value cs

def shrink (distance steps : Nat) : Nat × Nat :=
  if 455 < distance then shrink (distance / 35) (steps + 36) else (distance, steps)
  termination_by distance

def adapted (distance : Nat) (isFirst : Bool) (length : Nat) : Nat :=
  let distance := if isFirst then distance / 700 else distance / 2
  let (distance, steps) := shrink (distance + distance / length) 0
  steps + 36 * distance / (distance + 38)

/-- Puts code points in. `place` is the place behind the last one put in and `code` its number;
`fuel` is at least the number of digits left. -/
def insertAll : Nat → Bool → Nat → Nat → Nat → List Nat → List Char → Option (List Nat)
  | _, _, _, _, _, base, [] => some base
  | 0, _, _, _, _, _, _ :: _ => none
  | fuel + 1, isFirst, bias, place, code, base, digits =>
    match number? bias 0 1 0 digits with
    | none => none
    | some (distance, rest) =>
      let place := place + distance
      let length := base.length + 1
      let code := code + place / length
      if 0x10ffff < code then none
      else
        let place := place % length
        insertAll fuel false (adapted distance isFirst length) (place + 1) code
          (base.take place ++ code :: base.drop place) rest

/-- The text of ASCII characters: those up to the last hyphen stand for themselves. -/
def decode? (cs : List Char) : Option (List Char) :=
  let digits := (cs.reverse.takeWhile (· != '-')).reverse
  let base := (cs.take (cs.length - digits.length)).dropLast
  (insertAll digits.length true 72 0 0x80 (points base) digits).map (·.flatMap ofPoint)

def isAscii (bytes : List UInt8) : Bool := bytes.all (· < 0x80)

def asciiChars (bytes : List UInt8) : List Char := bytes.map fun b => Char.ofNat b.toNat

def decoder : Decoder where
  State := Unit
  start := ()
  step := fun _ _ bytes =>
    if isAscii bytes then (decode? (asciiChars bytes)).map fun cs => (cs, (), []) else none

def label? (cs : List Char) : Option (List Char) :=
  match after? "xn--".toList cs with
  | none => some cs
  | some rest =>
    match decode? rest with
    | none => none
    | some label =>
      if cs.length < 64 && label.any (0x80 ≤ ·.toNat) && !startsWith "xn--".toList label &&
          HostName.isProper label then some label
      else none

/-- Labels between full stops. The last of them waits for its end. What stands in front of a label
counts as read only if it is not empty. -/
def labels? (final : Bool) (cs : List Char) : Option (List Char × Nat) :=
  if cs.isEmpty then some ([], 0)
  else
    let parts := splitAt '.' cs
    let last := parts.getLast?.getD []
    let whole := final && !last.isEmpty
    let labels := if whole then parts else parts.dropLast
    let dot := if whole || labels.isEmpty && !last.isEmpty then [] else ['.']
    match labels.mapM label? with
    | none => none
    | some decoded =>
      let size := labels.foldl (fun n l => (if n == 0 then 0 else n + 1) + l.length) 0
      some (['.'].intercalate decoded ++ dot, size + dot.length)

def hostDecoder : Decoder where
  State := Unit
  start := ()
  step := fun final _ bytes =>
    if isAscii bytes then
      (labels? final (asciiChars bytes)).map fun (cs, size) => (cs, (), bytes.drop size)
    else none

end DroidAudit.Text.Punycode
