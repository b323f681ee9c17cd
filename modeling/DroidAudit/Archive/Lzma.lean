/-! Reading bytes that are packed as literals and copies, each bit of which is written by its
chance. The chances adapt to the bits that are read. -/
namespace DroidAudit.Archive.Lzma

inductive Stop
  | cutOff
  | broken
  /-- The settings in front of the bytes are none. -/
  | badSettings
  deriving Repr, DecidableEq

/-- How literals depend on the byte before and on their place, how copies depend on their place, and
how far back a copy may go. -/
structure Settings where
  beforeBits : Nat
  literalPlaceBits : Nat
  placeBits : Nat
  window : Nat
  deriving Repr

def Settings.ofBytes? (bytes : List UInt8) : Option Settings :=
  match bytes with
  | [first, a, b, c, d] =>
    let n := first.toNat
    let before := n % 9
    let literal := n / 9 % 5
    let window := a.toNat + 256 * b.toNat + 65536 * c.toNat + 16777216 * d.toNat
    if 224 < n || 4 < before + literal then none
    else some ⟨before, literal, n / 45, (max 4096 window + 15) / 16 * 16⟩
  | _ => none

/-! Bits by their chances. -/

/-- What has been read, the range that the next bits share, the place in the bytes, and the
chances of clear bits in parts of 2048. -/
structure Coder where
  code : UInt32
  range : UInt32
  place : Nat
  chances : Array Nat

abbrev Reader (α : Type) := ReaderT ByteArray (StateT Coder (Except Stop)) α

/-- Takes a byte in if the range has become small. -/
def widen : Reader Unit := fun bytes ⟨code, range, place, chances⟩ =>
  if 0x1000000 ≤ range then .ok ((), ⟨code, range, place, chances⟩)
  else if h : place < bytes.size then
    .ok ((), ⟨(code <<< 8) ||| bytes[place].toUInt32, range <<< 8, place + 1, chances⟩)
  else .error .cutOff

def bitOf (i : Nat) : Reader Nat := do
  widen
  fun _ ⟨code, range, place, chances⟩ =>
    let chance := chances.getD i 1024
    let bound := (range >>> 11) * chance.toUInt32
    if code < bound then
      .ok (0, ⟨code, bound, place, chances.setIfInBounds i (chance + (2048 - chance) / 32)⟩)
    else
      .ok (1, ⟨code - bound, range - bound, place, chances.setIfInBounds i (chance - chance / 32)⟩)

def plainBit : Reader Nat := do
  widen
  fun _ ⟨code, range, place, chances⟩ =>
    let half := range >>> 1
    let rest := code - half
    if rest &&& 0x80000000 == 0 then .ok (1, ⟨rest, half, place, chances⟩)
    else .ok (0, ⟨rest + half, half, place, chances⟩)

/-- Reads bits, highest first, behind those that are known; each has the chance for what is known
so far. -/
def tree (base : Nat) : (width : Nat) → (known : Nat) → Reader Nat
  | 0, known => return known
  | width + 1, known => do tree base width (2 * known + (← bitOf (base + known)))

def numberOf (base width : Nat) : Reader Nat := do return (← tree base width 1) - Nat.pow 2 width

def lowFirst (base : Nat) : (width : Nat) → (known : Nat) → Reader Nat
  | 0, _ => return 0
  | width + 1, known => do
    let b ← bitOf (base + known)
    return b + 2 * (← lowFirst base width (2 * known + b))

def plainNumber : (width : Nat) → (known : Nat) → Reader Nat
  | 0, known => return known
  | width + 1, known => do plainNumber width (2 * known + (← plainBit))

/-! The chances by what they are for. Many depend on the phase, which tells what kinds of pieces
came last, and on the place of the next byte. -/

def isCopy (phase place : Nat) : Nat := 16 * phase + place

def isRepeat (phase : Nat) : Nat := 192 + phase

/-- Whether a repetition goes back as far as another than the last, than the last two, or than the
last three. -/
def isOlder (age phase : Nat) : Nat := 204 + 12 * age + phase

def isLong (phase place : Nat) : Nat := 240 + 16 * phase + place

def slots (kind : Nat) : Nat := 432 + 64 * kind

def middleDistances : Nat := 688

def lowDistances : Nat := 803

def lengths : Nat := 819

def repeatLengths : Nat := 1333

def literals (context : Nat) : Nat := 1847 + 768 * context

def chanceCount (s : Settings) : Nat := literals (Nat.pow 2 (s.beforeBits + s.literalPlaceBits))

/-! Pieces. -/

/-- How far back the last four copies went, less one, the last first; and the phase. -/
structure History where
  phase : Nat := 0
  backs : List Nat := [0, 0, 0, 0]

inductive Piece
  | literal (b : UInt8)
  | copy (back length : Nat)
  | finish

def lengthAt (base place : Nat) : Reader Nat := do
  if (← bitOf base) == 0 then return 2 + (← numberOf (base + 2 + 8 * place) 3)
  if (← bitOf (base + 1)) == 0 then return 10 + (← numberOf (base + 130 + 8 * place) 3)
  return 18 + (← numberOf (base + 258) 8)

/-- Reads the bits of a literal that follows a copy, beside the byte that the copy would go on
with, as long as both agree. -/
def besideTree (base expectedByte : Nat) : (width : Nat) → (known : Nat) → Reader Nat
  | 0, known => return known
  | width + 1, known => do
    let expected := expectedByte / Nat.pow 2 width % 2
    let b ← bitOf (base + 256 * (1 + expected) + known)
    let known := 2 * known + b
    if b == expected then besideTree base expectedByte width known else tree base width known

def byteBack (out : ByteArray) (back : Nat) : Nat :=
  if back < out.size then (out[out.size - 1 - back]?.getD 0).toNat else 0

def literalAt (s : Settings) (h : History) (out : ByteArray) : Reader Nat := do
  let before := byteBack out 0 / Nat.pow 2 (8 - s.beforeBits)
  let base := literals (out.size % Nat.pow 2 s.literalPlaceBits * Nat.pow 2 s.beforeBits + before)
  let n ←
    if h.phase < 7 then tree base 8 1
    else besideTree base (byteBack out (h.backs.headD 0)) 8 1
  return n - 256

/-- How far back a new copy goes, less one. -/
def backAt (length : Nat) : Reader Nat := do
  let slot ← numberOf (slots (min 3 (length - 2))) 6
  let width := slot / 2 - 1
  let high := 2 + slot % 2
  if slot < 4 then return slot
  if slot < 14 then
    let high := high * Nat.pow 2 width
    return high + (← lowFirst (middleDistances + high - slot - 1) width 1)
  let high ← plainNumber (width - 4) high
  return 16 * high + (← lowFirst lowDistances 4 1)

def endBack : Nat := 0xFFFFFFFF

/-- Whether everything was read: nothing of the last byte is left. -/
def finish : Reader Piece := do
  widen
  if (← get).code == 0 then return .finish else throw .broken

def afterLiteral (phase : Nat) : Nat :=
  if phase < 4 then 0 else if phase < 10 then phase - 3 else phase - 6

def afterCopy (early late phase : Nat) : Nat := if phase < 7 then early else late

def repeatAt (h : History) (place : Nat) : Reader (Piece × History) := do
  let long (backs : List Nat) : Reader (Piece × History) := do
    let length ← lengthAt repeatLengths place
    return (.copy (backs.headD 0) length, ⟨afterCopy 8 11 h.phase, backs⟩)
  match h.backs with
  | [a, b, c, d] =>
    if (← bitOf (isOlder 0 h.phase)) == 0 then
      if (← bitOf (isLong h.phase place)) == 0 then
        return (.copy a 1, ⟨afterCopy 9 11 h.phase, h.backs⟩)
      else long h.backs
    else if (← bitOf (isOlder 1 h.phase)) == 0 then long [b, a, c, d]
    else if (← bitOf (isOlder 2 h.phase)) == 0 then long [c, a, b, d]
    else long [d, a, b, c]
  | _ => throw .broken

/-- The next piece. A copy must start within what is written, and within the window. -/
def pieceAt (s : Settings) (h : History) (out : ByteArray) : Reader (Piece × History) := do
  let place := out.size % Nat.pow 2 s.placeBits
  let reach := min out.size s.window
  if (← bitOf (isCopy h.phase place)) == 0 then
    let b ← literalAt s h out
    return (.literal b.toUInt8, { h with phase := afterLiteral h.phase })
  if (← bitOf (isRepeat h.phase)) == 0 then
    let length ← lengthAt lengths place
    let back ← backAt length
    if back == endBack then return (← finish, h)
    if reach ≤ back then throw .broken
    return (.copy back length, ⟨afterCopy 7 10 h.phase, back :: h.backs.dropLast⟩)
  if reach == 0 then throw .broken
  repeatAt h place

def copied (back : Nat) : Nat → ByteArray → ByteArray
  | 0, out => out
  | n + 1, out => copied back n (out.push (byteBack out back).toUInt8)

/-- Reads pieces, and tells why reading stops before the end, if it does. -/
def piecesFrom (s : Settings) (bytes : ByteArray) :
    Nat → Coder → History → ByteArray → ByteArray × Option Stop
  | 0, _, _, out => (out, some .cutOff)
  | fuel + 1, coder, h, out =>
    match (pieceAt s h out).run bytes |>.run coder with
    | .error stop => (out, some stop)
    | .ok ((.finish, _), _) => (out, none)
    | .ok ((.literal b, h), coder) => piecesFrom s bytes fuel coder h (out.push b)
    | .ok ((.copy back length, h), coder) =>
      piecesFrom s bytes fuel coder h (copied back length out)

/-- Unpacks bytes that follow the settings. The first of them is zero. A byte holds fewer than 512
bits, even if all have the best chance. -/
def unpackWith (s : Settings) (bytes : ByteArray) : ByteArray × Option Stop :=
  match bytes.toList with
  | 0 :: a :: b :: c :: d :: _ =>
    let code := [a, b, c, d].foldl (fun (n : UInt32) b => (n <<< 8) ||| b.toUInt32) 0
    let coder : Coder := ⟨code, 0xFFFFFFFF, 5, Array.replicate (chanceCount s) 1024⟩
    piecesFrom s bytes (512 * bytes.size) coder {} .empty
  | [] => (.empty, some .cutOff)
  | first :: _ => (.empty, some (if first == 0 then .cutOff else .broken))

/-- Unpacks bytes. In front of them stand a version, the size of the settings, and the settings. -/
def unpack (bytes : ByteArray) : ByteArray × Option Stop :=
  match bytes.toList with
  | _ :: _ :: low :: high :: rest =>
    let size := low.toNat + 256 * high.toNat
    if rest.length ≤ size then (.empty, some .cutOff)
    else
      match Settings.ofBytes? (rest.take size) with
      | none => (.empty, some .badSettings)
      | some s => unpackWith s (bytes.extract (4 + size) bytes.size)
  | _ => (.empty, some .cutOff)

end DroidAudit.Archive.Lzma
