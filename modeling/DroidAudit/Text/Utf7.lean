import DroidAudit.Text.Decoder

/-! UTF-7: a plus sign begins a stretch of units of sixteen bits, six bits to a letter. -/
namespace DroidAudit.Text.Utf7

def sixBits? (b : UInt8) : Option Nat :=
  let n := b.toNat
  if 0x41 ≤ n && n ≤ 0x5a then some (n - 0x41)
  else if 0x61 ≤ n && n ≤ 0x7a then some (n - 0x61 + 26)
  else if 0x30 ≤ n && n ≤ 0x39 then some (n - 0x30 + 52)
  else if n == 0x2b then some 62
  else if n == 0x2f then some 63
  else none

/-- A stretch: what was read in front of it, its bytes from the plus sign on, the bits not yet used
with their number, and a unit that waits for the other half. -/
structure Stretch where
  before : List Char
  bytes : List UInt8
  bits : Nat := 0
  count : Nat := 0
  high : Option Nat := none

def Stretch.add (s : Stretch) (done : List Char) (unit : Nat) : List Char × Stretch :=
  match s.high with
  | some high =>
    if isLow unit then (push (pairPoint high unit) done, { s with high := none })
    else if isHigh unit then (push high done, { s with high := some unit })
    else (push unit (push high done), { s with high := none })
  | none =>
    if isHigh unit then (done, { s with high := some unit }) else (push unit done, s)

def Stretch.take (s : Stretch) (done : List Char) (letter : Nat) : List Char × Stretch :=
  let bits := s.bits * 64 + letter
  let count := s.count + 6
  if 16 ≤ count then
    let left := count - 16
    { s with bits := bits % Nat.pow 2 left, count := left }.add done (bits / Nat.pow 2 left)
  else (done, { s with bits, count })

def Stretch.isUneven (s : Stretch) : Bool := 6 ≤ s.count || (0 < s.count && s.bits != 0)

/-- Reads on, with `done` in reverse. A stretch that does not end here waits as a whole, as long as
more may follow. -/
def decodeFrom (final : Bool) :
    Option Stretch → List Char → List UInt8 → Option (List Char × List UInt8)
  | none, done, [] => some (done.reverse, [])
  | some s, done, [] =>
    if !final then some (s.before.reverse, s.bytes)
    else if s.isUneven || s.high.isSome then none
    else some (done.reverse, [])
  | none, done, 0x2b :: rest =>
    match rest with
    | [] => some (done.reverse, if final then [] else [0x2b])
    | b :: more =>
      if b == 0x2d then decodeFrom final none ('+' :: done) more
      else if (sixBits? b).isSome then
        decodeFrom final (some { before := done, bytes := 0x2b :: rest }) done (b :: more)
      else none
  | none, done, b :: rest =>
    if b < 0x80 then decodeFrom final none (Char.ofNat b.toNat :: done) rest else none
  | some s, done, b :: rest =>
    match sixBits? b with
    | some letter =>
      let (done, s) := s.take done letter
      decodeFrom final (some s) done rest
    | none =>
      if s.isUneven then none
      else
        let done :=
          match s.high with
          | some high => if b < 0x80 then push high done else done
          | none => done
        if b == 0x2d then decodeFrom final none done rest
        else if b < 0x80 then decodeFrom final none (Char.ofNat b.toNat :: done) rest
        else none

def decoder : Decoder where
  State := Unit
  start := ()
  step := fun final _ bytes =>
    (decodeFrom final none [] bytes).map fun (cs, waiting) => (cs, (), waiting)

end DroidAudit.Text.Utf7
