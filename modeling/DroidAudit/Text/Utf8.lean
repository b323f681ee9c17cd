import DroidAudit.Text.Decoder
import DroidAudit.Text.Quoted

/-! UTF-8. -/
namespace DroidAudit.Text

/-- Bytes that stand for no character: the first of them, the place of the first and of the one
behind the last, and what is wrong. -/
structure DecodeFault where
  byte : UInt8
  start : Nat
  stop : Nat
  reason : String
  deriving Repr, DecidableEq

def DecodeFault.message (f : DecodeFault) : String :=
  if f.stop == f.start + 1 then
    "'utf-8' codec can't decode byte 0x" ++ String.ofList (hexDigits 2 f.byte.toNat) ++
      " in position " ++ toString f.start ++ ": " ++ f.reason
  else
    "'utf-8' codec can't decode bytes in position " ++ toString f.start ++ "-" ++
      toString (f.stop - 1) ++ ": " ++ f.reason

/-- Halves of pairs, for which no bytes stand: the first of them, its place, and the place behind
the last. -/
structure EncodeFault where
  first : Nat
  start : Nat
  stop : Nat
  deriving Repr, DecidableEq

def EncodeFault.message (f : EncodeFault) : String :=
  let what :=
    if f.stop == f.start + 1 then
      "character '" ++ String.ofList (hexEscape f.first) ++ "' in position " ++ toString f.start
    else "characters in position " ++ toString f.start ++ "-" ++ toString (f.stop - 1)
  "'utf-8' codec can't encode " ++ what ++ ": surrogates not allowed"

/-- The first halves among code points, but for those that pass. -/
def encodeFaultFrom (passes : Nat → Bool) (place : Nat) : List Nat → Option EncodeFault
  | [] => none
  | n :: ns =>
    if isHalf n && !passes n then some ⟨n, place, place + 1 + (ns.takeWhile isHalf).length⟩
    else encodeFaultFrom passes (place + 1) ns

def encodeFault? (s : String) : Option EncodeFault :=
  encodeFaultFrom (fun _ => false) 0 (points s.toList)

/-- In paths some halves stand for bytes that are no text. -/
def isByte (point : Nat) : Bool := 0xdc80 ≤ point && point ≤ 0xdcff

def pathFault? (path : String) : Option EncodeFault :=
  encodeFaultFrom isByte 0 (points path.toList)

def pointBytes (n : Nat) : List UInt8 :=
  if isByte n then [UInt8.ofNat (n - 0xdc00)] else String.utf8EncodeChar (Char.ofNat n)

def encoded (s : String) : ByteArray :=
  if s.any isReserved then ⟨((points s.toList).flatMap pointBytes).toArray⟩ else s.toUTF8

/-- How many bytes follow a leading byte, and the range of the first of them. -/
def followers (b : UInt8) : Option (Nat × UInt8 × UInt8) :=
  if b < 0xC2 then none
  else if b < 0xE0 then some (1, 0x80, 0xBF)
  else if b == 0xE0 then some (2, 0xA0, 0xBF)
  else if b == 0xED then some (2, 0x80, 0x9F)
  else if b < 0xF0 then some (2, 0x80, 0xBF)
  else if b == 0xF0 then some (3, 0x90, 0xBF)
  else if b < 0xF4 then some (3, 0x80, 0xBF)
  else if b == 0xF4 then some (3, 0x80, 0x8F)
  else none

/-- How many of the next bytes are followers as expected, and whether the bytes ended there. -/
def goodFollowers : Nat → UInt8 → UInt8 → List UInt8 → Nat × Bool
  | 0, _, _, _ => (0, false)
  | _ + 1, _, _, [] => (0, true)
  | n + 1, low, high, b :: rest =>
    if low ≤ b && b ≤ high then
      let (k, ended) := goodFollowers n 0x80 0xBF rest
      (k + 1, ended)
    else (0, false)

/-- The first fault of bytes that should be UTF-8; `place` is where they start and `skip` counts
followers that are already checked. -/
def utf8FaultFrom (place : Nat) : Nat → List UInt8 → Option DecodeFault
  | _, [] => none
  | skip + 1, _ :: rest => utf8FaultFrom (place + 1) skip rest
  | 0, b :: rest =>
    if b < 0x80 then utf8FaultFrom (place + 1) 0 rest
    else
      match followers b with
      | none => some ⟨b, place, place + 1, "invalid start byte"⟩
      | some (n, low, high) =>
        let (good, ended) := goodFollowers n low high rest
        if good == n then utf8FaultFrom (place + 1) n rest
        else if ended then some ⟨b, place, place + 1 + good, "unexpected end of data"⟩
        else some ⟨b, place, place + 1 + good, "invalid continuation byte"⟩

def utf8Fault (bytes : ByteArray) : Option DecodeFault := utf8FaultFrom 0 0 bytes.toList

def utf8Chars (bytes : List UInt8) : List Char :=
  ((String.fromUTF8? ⟨bytes.toArray⟩).getD "").toList

def utf8Text (bytes : ByteArray) : String :=
  let text := (String.fromUTF8? bytes).getD ""
  if text.any isReserved then String.ofList (ofChars text.toList) else text

def decodedWith (replacement : List UInt8 → List Char) : Nat → List UInt8 → List Char
  | 0, _ => []
  | fuel + 1, bytes =>
    match utf8FaultFrom 0 0 bytes with
    | none => ofChars (utf8Chars bytes)
    | some f =>
      ofChars (utf8Chars (bytes.take f.start)) ++
        replacement ((bytes.take f.stop).drop f.start) ++
          decodedWith replacement fuel (bytes.drop f.stop)

def listedName (name : String) : String :=
  if name.any isReserved then
    let bytes := (encoded name).toList
    String.ofList
      (decodedWith (·.map fun b => halfChar (0xdc00 + b.toNat)) (bytes.length + 1) bytes)
  else name

def shownPath (path : String) : String :=
  if path.any isReserved then
    let bytes := (encoded path).toList
    String.ofList (decodedWith (fun _ => [ '\ufffd']) (bytes.length + 1) bytes)
  else path

/-- Reads characters. Bytes that a character at the end still lacks are no fault as long as more of
them may follow. -/
def utf8Step (final : Bool) (bytes : List UInt8) : Option (List Char × List UInt8) :=
  match utf8FaultFrom 0 0 bytes with
  | none => some (ofChars (utf8Chars bytes), [])
  | some f =>
    if !final && f.reason == "unexpected end of data" then
      some (ofChars (utf8Chars (bytes.take f.start)), bytes.drop f.start)
    else none

namespace Decoder

def utf8 : Decoder where
  State := Unit
  start := ()
  step := fun final _ bytes => (utf8Step final bytes).map fun (cs, waiting) => (cs, (), waiting)

/-- With a mark at the front that is no part of the text. The state tells whether the front is
passed. As long as the bytes may become the mark, they wait, even if none follow. -/
def utf8Marked : Decoder where
  State := Bool
  start := false
  step := fun final passed bytes =>
    let plain (bytes : List UInt8) : Option (List Char × Bool × List UInt8) :=
      (utf8Step final bytes).map fun (cs, waiting) => (cs, true, waiting)
    if passed then plain bytes
    else
      match bytes with
      | 0xef :: 0xbb :: 0xbf :: rest => plain rest
      | [] | [0xef] | [0xef, 0xbb] => some ([], false, bytes)
      | bytes => plain bytes

end Decoder
end DroidAudit.Text
