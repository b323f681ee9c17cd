import DroidAudit.Text.Decoder

/-! Text in units of sixteen or of thirty-two bits. -/
namespace DroidAudit.Text

inductive ByteOrder
  | bigEndian
  | littleEndian
  deriving Repr, DecidableEq

def unit16 : ByteOrder → UInt8 → UInt8 → Nat
  | .bigEndian, a, b => 256 * a.toNat + b.toNat
  | .littleEndian, a, b => 256 * b.toNat + a.toNat

def utf16Head (order : ByteOrder) : List UInt8 → Head Unit
  | a :: b :: rest =>
    let high := unit16 order a b
    if !isHalf high then .chars [Char.ofNat high] 2 ()
    else if isLow high then .fault
    else
      match rest with
      | c :: d :: _ =>
        let low := unit16 order c d
        if isLow low then .chars (ofPoint (pairPoint high low)) 4 () else .fault
      | _ => .cutOff
  | _ => .cutOff

def utf32Head (order : ByteOrder) : List UInt8 → Head Unit
  | a :: b :: c :: d :: _ =>
    let n :=
      match order with
      | .bigEndian => 65536 * unit16 order a b + unit16 order c d
      | .littleEndian => 65536 * unit16 order c d + unit16 order a b
    if 0x110000 ≤ n || isHalf n then .fault else .chars (ofPoint n) 4 ()
  | _ => .cutOff

namespace Decoder

def utf16 (order : ByteOrder) : Decoder := .ofHead (utf16Head order)

def utf32 (order : ByteOrder) : Decoder := .ofHead (utf32Head order)

/-- A mark at the front tells the order of bytes; without one nothing can be read. -/
def marked (head : ByteOrder → List UInt8 → Head Unit)
    (mark : List UInt8 → Option (ByteOrder × List UInt8)) (size : Nat) : Decoder where
  State := Option ByteOrder
  start := none
  step := fun final order bytes =>
    let read (order : ByteOrder) (bytes : List UInt8) :
        Option (List Char × Option ByteOrder × List UInt8) :=
      (headsFrom (fun _ => head order) final () [] 0 bytes).map fun (cs, _, waiting) =>
        (cs, some order, waiting)
    match order with
    | some order => read order bytes
    | none =>
      match mark bytes with
      | some (order, rest) => read order rest
      | none =>
        if bytes.isEmpty || (!final && bytes.length < size) then some ([], none, bytes) else none

def utf16Marked : Decoder :=
  marked utf16Head
    (fun bytes =>
      match bytes with
      | 0xfe :: 0xff :: rest => some (.bigEndian, rest)
      | 0xff :: 0xfe :: rest => some (.littleEndian, rest)
      | _ => none)
    2

def utf32Marked : Decoder :=
  marked utf32Head
    (fun bytes =>
      match bytes with
      | 0x00 :: 0x00 :: 0xfe :: 0xff :: rest => some (.bigEndian, rest)
      | 0xff :: 0xfe :: 0x00 :: 0x00 :: rest => some (.littleEndian, rest)
      | _ => none)
    4

end Decoder
end DroidAudit.Text
