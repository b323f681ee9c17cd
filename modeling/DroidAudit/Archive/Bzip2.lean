import DroidAudit.Archive.Inflate

/-! Reading bytes that are packed block by block. The rotations of a block are sorted, the last
bytes of them are moved to the front, and what results is written in several codes by turns. Bits
are taken from the high end of each byte. -/
namespace DroidAudit.Archive.Bzip2

inductive Stop
  | cutOff
  | broken
  deriving Repr, DecidableEq

/-- A reader of bits, with the number of bits read so far. -/
abbrev Reader (α : Type) := ReaderT ByteArray (StateT Nat (Except Stop)) α

def bit : Reader Nat := fun bytes place =>
  if h : place / 8 < bytes.size then
    .ok (bytes[place / 8].toNat / Nat.pow 2 (7 - place % 8) % 2, place + 1)
  else .error .cutOff

def number : Nat → Reader Nat
  | 0 => return 0
  | width + 1 => do
    let high ← bit
    return high * Nat.pow 2 width + (← number width)

def marks : List Nat → Reader Unit
  | [] => return ()
  | mark :: more => do
    if (← number 8) != mark then throw .broken
    marks more

def setBits : Reader (List Nat) := do
  let n ← number 16
  return (List.range 16).filter fun i => n / Nat.pow 2 (15 - i) % 2 == 1

def bytesUsed : Reader (List UInt8) := do
  let used ← (← setBits).mapM fun group => do
    return (← setBits).map fun i => (16 * group + i).toUInt8
  return used.flatten

/-- How many set bits stand in front of the next clear one, fewer than `limit`. -/
def unary : (limit : Nat) → Reader Nat
  | 0 => throw .broken
  | limit + 1 => do
    if (← bit) == 0 then return 0
    return (← unary limit) + 1

def toFront {α : Type} (i : Nat) (l : List α) : Option (α × List α) :=
  (l[i]?).map fun a => (a, a :: l.eraseIdx i)

def selectors (order : List Nat) : Nat → Reader (List Nat)
  | 0 => return []
  | n + 1 => do
    match toFront (← unary order.length) order with
    | none => throw .broken
    | some (s, order) => return s :: (← selectors order n)

def maxTurns : Nat := 18002

def maxLength : Nat := 20

/-- The length of a code word, told by steps from the length of the one before. -/
def lengthFrom : Nat → Nat → Reader Nat
  | 0, _ => throw .cutOff
  | fuel + 1, length => do
    if length < 1 || maxLength < length then throw .broken
    if (← bit) == 0 then return length
    lengthFrom fuel (if (← bit) == 0 then length + 1 else length - 1)

def lengthsFrom (length : Nat) : Nat → Reader (List Nat)
  | 0 => return []
  | n + 1 => do
    let length ← lengthFrom (8 * (← read).size + 1) length
    return length :: (← lengthsFrom length n)

def codeOf (symbols : Nat) : Reader Code := do
  return .ofLengths (← lengthsFrom (← number 5) symbols)

/-- Reads one symbol; `first` is the first code word of the length reached, `index` the place of
its symbol. -/
def symbolFrom (symbols : Array Nat) (word first index : Nat) : List Nat → Reader Nat
  | [] => throw .broken
  | count :: counts => do
    let word := 2 * word + (← bit)
    let first := 2 * first
    if word < first + count then
      match symbols[index + (word - first)]? with
      | some s => return s
      | none => throw .broken
    else symbolFrom symbols word (first + count) (index + count) counts

/-- Reads one symbol. A word that is none shows when it is longer than all of them. -/
def symbol (c : Code) : Reader Nat :=
  symbolFrom c.symbols 0 0 0
    (c.counts ++ List.replicate (maxLength + 1 - c.counts.length) 0)

/-- A block being read: the bytes in the order of their last use, those read so far, and a number
of repetitions of the first, told by digits of growing weight. -/
structure Gathered where
  order : List UInt8
  bytes : ByteArray := .empty
  run : Nat := 0
  weight : Nat := 1

def maxWeight : Nat := Nat.pow 2 21

def pushTimes (b : UInt8) : Nat → ByteArray → ByteArray
  | 0, bytes => bytes
  | n + 1, bytes => pushTimes b n (bytes.push b)

def Gathered.settle (limit : Nat) (g : Gathered) : Except Stop Gathered :=
  if g.run == 0 then .ok g
  else if limit < g.bytes.size + g.run then .error .broken
  else .ok { g with bytes := pushTimes (g.order.headD 0) g.run g.bytes, run := 0, weight := 1 }

/-- Takes one symbol in: a digit of a number of repetitions, or the place of a byte. -/
def Gathered.take (limit : Nat) (g : Gathered) (symbol : Nat) : Except Stop Gathered :=
  if symbol < 2 then
    if maxWeight ≤ g.weight then .error .broken
    else .ok { g with run := g.run + (symbol + 1) * g.weight, weight := 2 * g.weight }
  else do
    let g ← g.settle limit
    if limit ≤ g.bytes.size then throw .broken
    match toFront (symbol - 1) g.order with
    | none => throw .broken
    | some (b, order) => return { g with order := order, bytes := g.bytes.push b }

def turnLength : Nat := 50

/-- Reads symbols up to `last`, which ends the block. `left` more are read with the current code. -/
def gather (limit last : Nat) (codes : Array Code) :
    Nat → List Nat → Nat → Code → Gathered → Reader ByteArray
  | 0, _, _, _, _ => throw .cutOff
  | fuel + 1, turns, left, code, g => do
    match left, turns with
    | 0, [] => throw .broken
    | 0, s :: turns => gather limit last codes fuel turns turnLength (codes.getD s code) g
    | left + 1, turns =>
      let s ← symbol code
      if s == last then return (← g.settle limit).bytes
      gather limit last codes fuel turns left code (← g.take limit s)

def sortedPlaces (bytes : ByteArray) : Array Nat :=
  let buckets := (List.range bytes.size).foldl
    (fun buckets i => buckets.modify (bytes[i]?.getD 0).toNat (·.push i))
    (Array.replicate 256 #[])
  buckets.flatten

/-- Follows the places `n` times, and takes the bytes on the way. -/
def follow (bytes : ByteArray) (next : Array Nat) : Nat → Nat → ByteArray → ByteArray
  | 0, _, out => out
  | n + 1, place, out =>
    follow bytes next n (next.getD place 0) (out.push (bytes[place]?.getD 0))

/-- The block whose sorted rotations end in the given bytes, from the rotation `start` on. -/
def unsorted (bytes : ByteArray) (start : Nat) : ByteArray :=
  let next := sortedPlaces bytes
  follow bytes next bytes.size (next.getD start 0) .empty

/-- Distances between the bytes of which a disturbed block has the lowest bit changed. -/
def disturbance : List Nat :=
  [619, 720, 127, 481, 931, 816, 813, 233, 566, 247, 985, 724, 205, 454, 863, 491, 741, 242, 949,
   214, 733, 859, 335, 708, 621, 574, 73, 654, 730, 472, 419, 436, 278, 496, 867, 210, 399, 680,
   480, 51, 878, 465, 811, 169, 869, 675, 611, 697, 867, 561, 862, 687, 507, 283, 482, 129, 807,
   591, 733, 623, 150, 238, 59, 379, 684, 877, 625, 169, 643, 105, 170, 607, 520, 932, 727, 476,
   693, 425, 174, 647, 73, 122, 335, 530, 442, 853, 695, 249, 445, 515, 909, 545, 703, 919, 874,
   474, 882, 500, 594, 612, 641, 801, 220, 162, 819, 984, 589, 513, 495, 799, 161, 604, 958, 533,
   221, 400, 386, 867, 600, 782, 382, 596, 414, 171, 516, 375, 682, 485, 911, 276, 98, 553, 163,
   354, 666, 933, 424, 341, 533, 870, 227, 730, 475, 186, 263, 647, 537, 686, 600, 224, 469, 68,
   770, 919, 190, 373, 294, 822, 808, 206, 184, 943, 795, 384, 383, 461, 404, 758, 839, 887, 715,
   67, 618, 276, 204, 918, 873, 777, 604, 560, 951, 160, 578, 722, 79, 804, 96, 409, 713, 940, 652,
   934, 970, 447, 318, 353, 859, 672, 112, 785, 645, 863, 803, 350, 139, 93, 354, 99, 820, 908, 609,
   772, 154, 274, 580, 184, 79, 626, 630, 742, 653, 282, 762, 623, 680, 81, 927, 626, 789, 125, 411,
   521, 938, 300, 821, 78, 343, 175, 128, 250, 170, 774, 972, 275, 999, 639, 495, 78, 352, 126, 857,
   956, 358, 619, 580, 124, 737, 594, 701, 612, 669, 112, 134, 694, 363, 992, 809, 743, 168, 974,
   944, 375, 748, 52, 600, 747, 642, 182, 862, 81, 344, 805, 988, 739, 511, 655, 814, 334, 249, 515,
   897, 955, 664, 981, 649, 113, 974, 459, 893, 228, 433, 837, 553, 268, 926, 240, 102, 654, 459,
   51, 686, 754, 806, 760, 493, 403, 415, 394, 687, 700, 946, 670, 656, 610, 738, 392, 760, 799,
   887, 653, 978, 321, 576, 617, 626, 502, 894, 679, 243, 440, 680, 879, 194, 572, 640, 724, 926,
   56, 204, 700, 707, 151, 457, 449, 797, 195, 791, 558, 945, 679, 297, 59, 87, 824, 713, 663, 412,
   693, 342, 606, 134, 108, 571, 364, 631, 212, 174, 643, 304, 329, 343, 97, 430, 751, 497, 314,
   983, 374, 822, 928, 140, 206, 73, 263, 980, 736, 876, 478, 430, 305, 170, 514, 364, 692, 829, 82,
   855, 953, 676, 246, 369, 970, 294, 750, 807, 827, 150, 790, 288, 923, 804, 378, 215, 828, 592,
   281, 565, 555, 710, 82, 896, 831, 547, 261, 524, 462, 293, 465, 502, 56, 661, 821, 976, 991, 658,
   869, 905, 758, 745, 193, 768, 550, 608, 933, 378, 286, 215, 979, 792, 961, 61, 688, 793, 644,
   986, 403, 106, 366, 905, 644, 372, 567, 466, 434, 645, 210, 389, 550, 919, 135, 780, 773, 635,
   389, 707, 100, 626, 958, 165, 504, 920, 176, 193, 713, 857, 265, 203, 50, 668, 108, 645, 990,
   626, 197, 510, 357, 358, 850, 858, 364, 936, 638]

/-- Undoes the disturbance of a block. `wait` bytes are left until the next distance counts. -/
def undisturbed : Nat → List Nat → List UInt8 → ByteArray → ByteArray
  | _, _, [], out => out
  | wait, distances, b :: bs, out =>
    let (wait, distances) :=
      if wait == 0 then
        match distances with
        | [] => (disturbance.headD 0, disturbance.tail)
        | d :: more => (d, more)
      else (wait, distances)
    undisturbed (wait - 1) distances bs (out.push (if wait == 2 then b ^^^ 1 else b))

/-- Behind four equal bytes the next one tells how many more of them follow. `count` bytes before
were equal to `last`. -/
def unrolled (last : UInt8) (count : Nat) : List UInt8 → ByteArray → Except Stop ByteArray
  | [], out => if count == 4 then .error .broken else .ok out
  | b :: bs, out =>
    if count == 4 then unrolled b 0 bs (pushTimes last b.toNat out)
    else unrolled b (if b == last then count + 1 else 1) bs (out.push b)

def checksumBit (r : UInt32) : UInt32 :=
  if r &&& 0x80000000 == 0 then r <<< 1 else (r <<< 1) ^^^ 0x04C11DB7

def checksumByte (r : UInt32) (b : UInt8) : UInt32 :=
  (List.range 8).foldl (fun r _ => checksumBit r) (r ^^^ (b.toUInt32 <<< 24))

def checksum (bytes : ByteArray) : UInt32 :=
  (bytes.data.foldl checksumByte 0xFFFFFFFF) ^^^ 0xFFFFFFFF

def block (limit : Nat) : Reader (ByteArray × UInt32) := do
  let stored ← number 32
  let disturbed ← bit
  let start ← number 24
  if limit + 10 < start then throw .broken
  let used ← bytesUsed
  if used.isEmpty then throw .broken
  let groups ← number 3
  if groups < 2 || 6 < groups then throw .broken
  let turns ← number 15
  if turns < 1 then throw .broken
  let turns ← selectors (List.range groups) turns
  let codes ← (List.range groups).mapM fun _ => codeOf (used.length + 2)
  let sorted ← gather limit (used.length + 1) codes.toArray (16 * (← read).size + 1)
    (turns.take maxTurns) 0 ⟨[], #[]⟩ { order := used }
  if sorted.size ≤ start then throw .broken
  let bytes := unsorted sorted start
  let bytes := if disturbed == 1 then undisturbed 0 disturbance bytes.toList .empty else bytes
  let bytes ← unrolled 0 0 bytes.toList .empty
  if (checksum bytes).toNat != stored then throw .broken
  return (bytes, checksum bytes)

def blockOrEnd (limit : Nat) (total : UInt32) : Reader (Option (ByteArray × UInt32)) := do
  let mark ← number 8
  if mark == 0x17 then
    marks [0x72, 0x45, 0x38, 0x50, 0x90]
    if (← number 32) != total.toNat then throw .broken
    return none
  if mark != 0x31 then throw .broken
  marks [0x41, 0x59, 0x26, 0x53, 0x59]
  return some (← block limit)

def blocksFrom (bytes : ByteArray) (limit : Nat) :
    Nat → Nat → UInt32 → ByteArray → ByteArray × Option Stop
  | 0, _, _, out => (out, some .cutOff)
  | fuel + 1, place, total, out =>
    match (blockOrEnd limit total).run bytes |>.run place with
    | .error stop => (out, some stop)
    | .ok (none, _) => (out, none)
    | .ok (some (more, sum), place) =>
      blocksFrom bytes limit fuel place (((total <<< 1) ||| (total >>> 31)) ^^^ sum) (out ++ more)

def blockLimit : Reader Nat := do
  marks [0x42, 0x5A, 0x68]
  let digit ← number 8
  if digit < 0x31 || 0x39 < digit then throw .broken
  return 100000 * (digit - 0x30)

/-- Unpacks bytes: what can be read of them, and why reading stops before the end, if it does. -/
def unpack (bytes : ByteArray) : ByteArray × Option Stop :=
  match blockLimit.run bytes |>.run 0 with
  | .error stop => (.empty, some stop)
  | .ok (limit, place) => blocksFrom bytes limit (bytes.size + 1) place 0 .empty

end DroidAudit.Archive.Bzip2
