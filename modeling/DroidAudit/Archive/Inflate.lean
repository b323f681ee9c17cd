/-! Reading deflated bytes. Bits are taken from the low end of each byte; a block is stored as it
is, or written in codes that are fixed or described in front of the block. -/
namespace DroidAudit.Archive

inductive InflateFault
  | cutOff
  /-- Bytes of a stored block are missing. -/
  | cutOffStored
  | badBlockType
  | badStoredLength
  | tooManySymbols
  | badCodeLengths
  | badRepeat
  | noEndOfBlock
  | badLiteralCode
  | badDistanceCode
  | badLiteral
  | badDistance
  | tooFarBack
  deriving Repr, DecidableEq

def InflateFault.reason : InflateFault → String
  | cutOff => "incomplete or truncated stream"
  | cutOffStored => "incomplete or truncated stream"
  | badBlockType => "invalid block type"
  | badStoredLength => "invalid stored block lengths"
  | tooManySymbols => "too many length or distance symbols"
  | badCodeLengths => "invalid code lengths set"
  | badRepeat => "invalid bit length repeat"
  | noEndOfBlock => "invalid code -- missing end-of-block"
  | badLiteralCode => "invalid literal/lengths set"
  | badDistanceCode => "invalid distances set"
  | badLiteral => "invalid literal/length code"
  | badDistance => "invalid distance code"
  | tooFarBack => "invalid distance too far back"

def InflateFault.message (f : InflateFault) : String :=
  "Error -3 while decompressing data: " ++ f.reason

/-- The bit at a place, and the next place; bits are counted through all bytes. -/
def bitAt (bytes : ByteArray) (place : Nat) : Except InflateFault (Nat × Nat) :=
  if h : place / 8 < bytes.size then
    .ok (bytes[place / 8].toNat / Nat.pow 2 (place % 8) % 2, place + 1)
  else .error .cutOff

def bitsAt (bytes : ByteArray) : Nat → Nat → Except InflateFault (Nat × Nat)
  | 0, place => .ok (0, place)
  | width + 1, place => do
    let (low, place) ← bitAt bytes place
    let (high, place) ← bitsAt bytes width place
    .ok (low + 2 * high, place)

/-- A code: how many symbols have a code word of length one, two and so on, and the symbols in the
order of their code words. -/
structure Code where
  counts : List Nat
  symbols : Array Nat

/-- The code in which every symbol has a word of the given length, none for length zero. -/
def Code.ofLengths (lengths : List Nat) : Code :=
  let longest := max 1 (lengths.foldl max 0)
  let widths := (List.range longest).map (· + 1)
  let numbered := lengths.zipIdx
  { counts := widths.map fun w => lengths.count w
    symbols := (widths.flatMap fun w => (numbered.filter (·.1 == w)).map (·.2)).toArray }

/-- How many words of the last length are left, or nothing if there are too many words of some
length; `left` counts those of the length reached. -/
def wordsLeft (left : Nat) : List Nat → Option Nat
  | [] => some left
  | count :: counts => if 2 * left < count then none else wordsLeft (2 * left - count) counts

def Code.isComplete (c : Code) : Bool := c.symbols.isEmpty || wordsLeft 1 c.counts == some 0

/-- Whether a code can be used for symbols: it is complete, or has just one word of one bit. -/
def Code.isUsable (c : Code) : Bool := c.isComplete || c.counts == [1]

/-- Reads one symbol. `first` is the first code word of the length reached, `index` the place of
its symbol; `fault` is for a word that stands for none. -/
def symbolFrom (bytes : ByteArray) (fault : InflateFault) (symbols : Array Nat)
    (word first index : Nat) : List Nat → Nat → Except InflateFault (Nat × Nat)
  | [], _ => .error fault
  | count :: counts, place => do
    let (bit, place) ← bitAt bytes place
    let word := 2 * word + bit
    let first := 2 * first
    if word < first + count then
      match symbols[index + (word - first)]? with
      | some s => .ok (s, place)
      | none => .error fault
    else symbolFrom bytes fault symbols word (first + count) (index + count) counts place

def Code.read (c : Code) (fault : InflateFault) (bytes : ByteArray) (place : Nat) :
    Except InflateFault (Nat × Nat) :=
  symbolFrom bytes fault c.symbols 0 0 0 c.counts place

/-- Lengths of copies: the least length and the width of what is added to it. -/
def copyLengths : List (Nat × Nat) :=
  [(3, 0), (4, 0), (5, 0), (6, 0), (7, 0), (8, 0), (9, 0), (10, 0), (11, 1), (13, 1), (15, 1),
   (17, 1), (19, 2), (23, 2), (27, 2), (31, 2), (35, 3), (43, 3), (51, 3), (59, 3), (67, 4),
   (83, 4), (99, 4), (115, 4), (131, 5), (163, 5), (195, 5), (227, 5), (258, 0)]

def copyDistances : List (Nat × Nat) :=
  [(1, 0), (2, 0), (3, 0), (4, 0), (5, 1), (7, 1), (9, 2), (13, 2), (17, 3), (25, 3), (33, 4),
   (49, 4), (65, 5), (97, 5), (129, 6), (193, 6), (257, 7), (385, 7), (513, 8), (769, 8),
   (1025, 9), (1537, 9), (2049, 10), (3073, 10), (4097, 11), (6145, 11), (8193, 12),
   (12289, 12), (16385, 13), (24577, 13)]

def rangeAt (table : List (Nat × Nat)) (fault : InflateFault) (bytes : ByteArray)
    (symbol place : Nat) : Except InflateFault (Nat × Nat) :=
  match table[symbol]? with
  | none => .error fault
  | some (least, width) => do
    let (more, place) ← bitsAt bytes width place
    .ok (least + more, place)

/-- Writes bytes again that stand `distance` back. -/
def copyBack (distance : Nat) : Nat → ByteArray → ByteArray
  | 0, out => out
  | n + 1, out => copyBack distance n (out.push (out[out.size - distance]?.getD 0))

/-- The bytes written so far, and where reading goes on or why it does not. -/
abbrev Inflating := ByteArray × Except InflateFault Nat

def copyAt (bytes : ByteArray) (distances : Code) (symbol place : Nat) :
    Except InflateFault ((Nat × Nat) × Nat) := do
  let (length, place) ← rangeAt copyLengths .badLiteral bytes (symbol - 257) place
  let (symbol, place) ← distances.read .badDistance bytes place
  let (distance, place) ← rangeAt copyDistances .badDistance bytes symbol place
  .ok ((length, distance), place)

/-- Reads symbols up to the end of the block. Each takes a bit, which bounds their number. -/
def symbolsFrom (bytes : ByteArray) (literals distances : Code) :
    Nat → Nat → ByteArray → Inflating
  | 0, _, out => (out, .error .cutOff)
  | fuel + 1, place, out =>
    match literals.read .badLiteral bytes place with
    | .error f => (out, .error f)
    | .ok (symbol, place) =>
      if symbol < 256 then symbolsFrom bytes literals distances fuel place (out.push symbol.toUInt8)
      else if symbol == 256 then (out, .ok place)
      else
        match copyAt bytes distances symbol place with
        | .error f => (out, .error f)
        | .ok ((length, distance), place) =>
          if distance > out.size then (out, .error .tooFarBack)
          else
            symbolsFrom bytes literals distances fuel place (copyBack distance length out)

def fixedLiterals : Code :=
  .ofLengths (List.replicate 144 8 ++ List.replicate 112 9 ++ List.replicate 24 7 ++
    List.replicate 8 8)

def fixedDistances : Code := .ofLengths (List.replicate 32 5)

def lengthOrder : List Nat := [16, 17, 18, 0, 8, 7, 9, 6, 10, 5, 11, 4, 12, 3, 13, 2, 14, 1, 15]

def lengthsGiven (bytes : ByteArray) :
    List Nat → Nat → Except InflateFault (List (Nat × Nat) × Nat)
  | [], place => .ok ([], place)
  | symbol :: more, place => do
    let (length, place) ← bitsAt bytes 3 place
    let (rest, place) ← lengthsGiven bytes more place
    .ok ((symbol, length) :: rest, place)

/-- One step of a table of code lengths: a length, or a length that stands several times. Without
any code, every bit stands for length zero. -/
def lengthsAt (bytes : ByteArray) (code : Code) (last : Option Nat) (place : Nat) :
    Except InflateFault (List Nat × Nat) :=
  if code.symbols.isEmpty then do
    let (_, place) ← bitAt bytes place
    .ok ([0], place)
  else do
    let (symbol, place) ← code.read .badCodeLengths bytes place
    if symbol < 16 then .ok ([symbol], place)
    else if symbol == 16 then
      let (more, place) ← bitsAt bytes 2 place
      match last with
      | none => .error .badRepeat
      | some length => .ok (List.replicate (3 + more) length, place)
    else if symbol == 17 then
      let (more, place) ← bitsAt bytes 3 place
      .ok (List.replicate (3 + more) 0, place)
    else
      let (more, place) ← bitsAt bytes 7 place
      .ok (List.replicate (11 + more) 0, place)

/-- Reads code lengths until there are `wanted`. `done` holds the lengths read, last first. -/
def lengthsFrom (bytes : ByteArray) (code : Code) (wanted : Nat) :
    Nat → Nat → List Nat → Except InflateFault (List Nat × Nat)
  | 0, _, _ => .error .cutOff
  | fuel + 1, place, done =>
    if done.length == wanted then .ok (done.reverse, place)
    else do
      let (more, place) ← lengthsAt bytes code done.head? place
      if wanted < done.length + more.length then .error .badRepeat
      else lengthsFrom bytes code wanted fuel place (more ++ done)

def codesAt (bytes : ByteArray) (place : Nat) : Except InflateFault ((Code × Code) × Nat) := do
  let (sizes, place) ← bitsAt bytes 14 place
  let literalCount := sizes % 32 + 257
  let distanceCount := sizes / 32 % 32 + 1
  if 286 < literalCount || 30 < distanceCount then throw .tooManySymbols
  let (given, place) ← lengthsGiven bytes (lengthOrder.take (sizes / 1024 + 4)) place
  let code := Code.ofLengths ((List.range 19).map fun symbol =>
    ((given.find? (·.1 == symbol)).map (·.2)).getD 0)
  if !code.isComplete then throw .badCodeLengths
  let wanted := literalCount + distanceCount
  let (all, place) ← lengthsFrom bytes code wanted (wanted + 1) place []
  if all.getD 256 0 == 0 then throw .noEndOfBlock
  let literals := Code.ofLengths (all.take literalCount)
  if !literals.isUsable then throw .badLiteralCode
  let distances := Code.ofLengths (all.drop literalCount)
  if !distances.isUsable then throw .badDistanceCode
  .ok ((literals, distances), place)

def storedBlock (bytes : ByteArray) (place : Nat) (out : ByteArray) : Inflating :=
  match bitsAt bytes 32 ((place + 7) / 8 * 8) with
  | .error f => (out, .error f)
  | .ok (sizes, place) =>
    let length := sizes % 65536
    let rest := out ++ bytes.extract (place / 8) (place / 8 + length)
    if length + sizes / 65536 != 65535 then (out, .error .badStoredLength)
    else if bytes.size < place / 8 + length then (rest, .error .cutOffStored)
    else (rest, .ok (place + 8 * length))

def block (bytes : ByteArray) (kind place : Nat) (out : ByteArray) : Inflating :=
  let fuel := 8 * bytes.size + 1
  if kind == 0 then storedBlock bytes place out
  else if kind == 1 then symbolsFrom bytes fixedLiterals fixedDistances fuel place out
  else if kind == 2 then
    match codesAt bytes place with
    | .error f => (out, .error f)
    | .ok ((literals, distances), place) => symbolsFrom bytes literals distances fuel place out
  else (out, .error .badBlockType)

def blocksFrom (bytes : ByteArray) : Nat → Nat → ByteArray → Inflating
  | 0, _, out => (out, .error .cutOff)
  | fuel + 1, place, out =>
    match bitsAt bytes 3 place with
    | .error f => (out, .error f)
    | .ok (front, place) =>
      match block bytes (front / 2) place out with
      | (out, .ok place) =>
        if front % 2 == 1 then (out, .ok place) else blocksFrom bytes fuel place out
      | failed => failed

/-- Inflates bytes: what can be read of them, and where the last block ends or why none does. -/
def inflate (bytes : ByteArray) : Inflating := blocksFrom bytes (8 * bytes.size + 1) 0 .empty

/-- How many bytes can be written as long as the last of the deflated bytes is not needed, if it is
part of a code. -/
def sizeBeforeLast (bytes : ByteArray) : Option Nat :=
  match inflate (bytes.extract 0 (bytes.size - 1)) with
  | (out, .error .cutOff) => some out.size
  | _ => none

end DroidAudit.Archive
