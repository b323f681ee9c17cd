import DroidAudit.Archive.Lzma

/-! Character classes given by tables of code points. -/
namespace DroidAudit.Text

abbrev Range := Nat × Nat

/-- Ranges by the lengths of stretches that lie outside and inside of them in turn, the first one
from `start` on. -/
def rangesFrom (start : Nat) : List Nat → List Range
  | outside :: inside :: rest =>
    (start + outside, start + outside + inside - 1) :: rangesFrom (start + outside + inside) rest
  | _ => []

def within (ranges : List Range) (c : Char) : Bool :=
  ranges.any fun r => r.1 ≤ c.toNat && c.toNat ≤ r.2

/-! Long tables are kept packed. Their bytes are written in signs, 21 for 17 bytes; blanks and line
breaks between the signs do not count. -/
namespace Packed

/-- The value of a sign: every printed character counts, but for those that a string cannot hold as
they are. -/
def signValue (c : Char) : Nat := c.toNat - 33 - ['"', '\\', '\x7b', '\x7d'].countP (· < c)

def bytesOf (signs : Array Char) : List UInt8 :=
  (List.range (signs.size / 21)).flatMap fun i =>
    let group := signs.extract (21 * i) (21 * i + 21)
    let n := group.foldl (fun n sign => 90 * n + signValue sign) 0
    (List.range 17).reverse.map fun k => (n / Nat.pow 256 k).toUInt8

def unpacked (signs : String) : ByteArray :=
  let bytes := bytesOf (signs.toList.filter (' ' < ·)).toArray
  (Archive.Lzma.unpackWith ⟨1, 1, 0, 1048576⟩ ⟨bytes.toArray⟩).1

/-- Numbers of three bytes: the high bytes of all of them come first, then the two others of each. -/
def numbers (signs : String) : List Nat :=
  let bytes := unpacked signs
  let count := bytes.size / 3
  let byteAt (i : Nat) : Nat := (bytes[i]?.getD 0).toNat
  (List.range count).map fun i =>
    65536 * byteAt i + 256 * byteAt (count + 2 * i) + byteAt (count + 2 * i + 1)

/-- Characters by the steps from the last one of the same kind, of which `points` tells the places. The
high byte is the kind, and three kinds after one another are of three planes; where it is zero there
is no character, and a full stop stands for it. -/
def charsFrom (points : Array Nat) : List Nat → List Char
  | [] => []
  | n :: ns =>
    let kind := n / 65536
    if kind == 0 then '.' :: charsFrom points ns
    else
      let point := (points.getD kind 0 + n) % 65536
      Char.ofNat (65536 * ((kind - 1) % 3) + point) ::
        charsFrom (points.setIfInBounds kind point) ns

def inRows (width : Nat) : Nat → List Char → List String
  | 0, _ => []
  | count + 1, cs => String.ofList (cs.take width) :: inRows width count (cs.drop width)

/-- The rows of a table of characters. -/
def rows (width count : Nat) (signs : String) : List String :=
  inRows width count (charsFrom (Array.replicate 8 0) (numbers signs))

end Packed
end DroidAudit.Text
