import DroidAudit.Archive.Unpack

/-! Reading an archive: first its directory, which stands at the end, then member by member. -/
namespace DroidAudit.Archive

structure Listing where
  /-- The name as written, and up to a zero character. -/
  written : String
  name : String
  flags : Nat
  method : Nat
  checksum : Nat
  packedSize : Nat
  size : Nat
  offset : Int
  attributes : Nat

def Listing.isDirectory (l : Listing) : Bool := l.name.toList.getLast? == some '/'

def nameOf (flags : Nat) (bytes : ByteArray) : Except Fault String :=
  if flags / 0x800 % 2 == 1 then
    match Text.utf8Fault bytes with
    | some f => .error (.badName f)
    | none => .ok (Text.utf8Text bytes)
  else .ok (String.ofList ((Text.CodePage.page437.decode? bytes.toList).getD []))

/-- The last place of the end mark, at `low` or behind it, searched from a place downwards. -/
def endFrom (bytes : ByteArray) (low : Nat) : Nat → Option Nat
  | 0 => if low == 0 && numberAt bytes 4 0 == endMark then some 0 else none
  | i + 1 =>
    if i + 1 < low then none
    else if numberAt bytes 4 (i + 1) == endMark then some (i + 1)
    else endFrom bytes low i

/-- Where the archive's end record stands: 22 bytes, and a comment of limited length. -/
def endPlace (bytes : ByteArray) : Option Nat :=
  let last := bytes.size - 22
  if bytes.size < 22 then none
  else if numberAt bytes 4 last == endMark && numberAt bytes 2 (last + 20) == 0 then some last
  else
    match endFrom bytes (bytes.size - 65558) (bytes.size - 4) with
    | some place => if place + 22 ≤ bytes.size then some place else none
    | none => none

/-- A number that does not fit in four bytes is left out there, and stands in a field of eight. -/
def longNumber (number : LongNumber) (short : Nat) (field : ByteArray) :
    Except Fault (Nat × ByteArray) :=
  let isLeftOut := short == 0xFFFFFFFF || (number == .size && short == 0xFFFFFFFFFFFFFFFF)
  if !isLeftOut then .ok (short, field)
  else if field.size < 8 then .error (.noLongNumber number)
  else .ok (numberAt field 8 0, field.extract 8 field.size)

def Listing.withNumbers (l : Listing) (field : ByteArray) : Except Fault Listing := do
  let (size, field) ← longNumber .size l.size field
  let (packedSize, field) ← longNumber .packedSize l.packedSize field
  let (offset, _) ← longNumber .offset l.offset.toNat field
  return { l with size := size, packedSize := packedSize, offset := offset }

/-- Reads the fields that stand behind a name, each with its kind and its size; the first kind holds
long numbers. -/
def Listing.withFields (l : Listing) : Nat → ByteArray → Except Fault Listing
  | 0, _ => .ok l
  | fuel + 1, fields =>
    if fields.size < 4 then .ok l
    else
      let kind := numberAt fields 2 0
      let size := numberAt fields 2 2
      if fields.size < size + 4 then .error (.badField kind size)
      else do
        let l ← if kind == 1 then l.withNumbers (fields.extract 4 (size + 4)) else .ok l
        l.withFields fuel (fields.extract (size + 4) fields.size)

def latestVersion : Nat := 63

/-- The entry at a place of the directory, whose own offset counts from `shift`, and the place
behind it. -/
def listingAt (directory : ByteArray) (shift : Int) (place : Nat) : Except Fault (Listing × Nat) :=
  do
    if directory.size < place + 46 then throw .cutOffDirectory
    if numberAt directory 4 place != entryMark then throw .badDirectory
    let flags := numberAt directory 2 (place + 8)
    let fields := place + 46 + numberAt directory 2 (place + 28)
    let comment := fields + numberAt directory 2 (place + 30)
    let written ← nameOf flags (directory.extract (place + 46) fields)
    let listing : Listing :=
      { written := written
        name := String.ofList (written.toList.takeWhile (· != '\x00'))
        flags := flags
        method := numberAt directory 2 (place + 10)
        checksum := numberAt directory 4 (place + 16)
        packedSize := numberAt directory 4 (place + 20)
        size := numberAt directory 4 (place + 24)
        offset := numberAt directory 4 (place + 42)
        attributes := numberAt directory 4 (place + 38) }
    let version := numberAt directory 1 (place + 6)
    if latestVersion < version then throw (.newVersion version)
    let listing ← listing.withFields directory.size (directory.extract fields comment)
    return ({ listing with offset := listing.offset + shift },
      comment + numberAt directory 2 (place + 32))

def listingsFrom (directory : ByteArray) (shift : Int) : Nat → Nat → Except Fault (List Listing)
  | 0, _ => .ok []
  | fuel + 1, place => do
    if directory.size ≤ place then return []
    let (listing, place) ← listingAt directory shift place
    return listing :: (← listingsFrom directory shift fuel place)

/-- Where the directory of an archive ends, how many bytes it has, and where it says it starts. -/
structure Span where
  finish : Nat
  size : Nat
  offset : Nat

/-- What the end record at a place says. In front of it may stand a record that leads to a long end
record, which then counts. -/
def spanAt (bytes : ByteArray) (place : Nat) : Except Fault Span :=
  let short : Span := ⟨place, numberAt bytes 4 (place + 12), numberAt bytes 4 (place + 16)⟩
  let locator := place - 20
  let long := place - 76
  if place < 20 || numberAt bytes 4 locator != locatorMark then .ok short
  else if numberAt bytes 4 (locator + 4) != 0 || 1 < numberAt bytes 4 (locator + 16) then
    .error .severalParts
  else if place < 76 then .error .notAnArchive
  else if numberAt bytes 4 long != longEndMark then .ok short
  else .ok ⟨long, numberAt bytes 8 (long + 40), numberAt bytes 8 (long + 48)⟩

def directory (bytes : ByteArray) : Except Fault (List Listing) :=
  match endPlace bytes with
  | none => .error .notAnArchive
  | some place => do
    let span ← spanAt bytes place
    if span.finish < span.size then throw .badOffset
    let start := span.finish - span.size
    listingsFrom (bytes.extract start span.finish) ((start : Int) - span.offset) (span.size + 1) 0

def Listing.hasFlag (l : Listing) (bit : Nat) : Bool := l.flags / Nat.pow 2 bit % 2 == 1

def methodNames : List (Nat × String) :=
  [(0, "store"), (1, "shrink"), (2, "reduce"), (3, "reduce"), (4, "reduce"), (5, "reduce"),
   (6, "implode"), (7, "tokenize"), (8, "deflate"), (9, "deflate64"), (10, "implode"),
   (12, "bzip2"), (14, "lzma"), (18, "terse"), (19, "lz77"), (97, "wavpack"), (98, "ppmd")]

def methodName (method : Nat) : String :=
  ((methodNames.find? (·.1 == method)).map (·.2)).getD (toString method)

def kindLetter (mode : Nat) : Char :=
  match mode / 4096 % 16 with
  | 1 => 'p'
  | 2 => 'c'
  | 4 => 'd'
  | 6 => 'b'
  | 8 => '-'
  | 10 => 'l'
  | 12 => 's'
  | _ => '?'

/-- Three letters for what some users may do; a special mark shares its place with the last. -/
def rightLetters (rights : Nat) (special : Bool) (mark : Char) : List Char :=
  let runs := rights % 2 == 1
  [if rights / 4 % 2 == 1 then 'r' else '-', if rights / 2 % 2 == 1 then 'w' else '-',
    if special then (if runs then mark else mark.toUpper) else if runs then 'x' else '-']

def modeLetters (mode : Nat) : String :=
  String.ofList (kindLetter mode :: rightLetters (mode / 64) (mode / 2048 % 2 == 1) 's' ++
    rightLetters (mode / 8) (mode / 1024 % 2 == 1) 's' ++
    rightLetters mode (mode / 512 % 2 == 1) 't')

def Listing.description (l : Listing) : String :=
  let mode := l.attributes / 65536
  let rest := l.attributes % 65536
  "<ZipInfo filename=" ++ Text.quoted l.name ++
    (if l.method == 0 then "" else " compress_type=" ++ methodName l.method) ++
    (if mode == 0 then "" else " filemode='" ++ modeLetters mode ++ "'") ++
    (if rest == 0 then "" else " external_attr=0x" ++ String.ofList (Nat.toDigits 16 rest)) ++
    " file_size=" ++ toString l.size ++
    (if l.method == 0 && l.size == l.packedSize then ""
      else " compress_size=" ++ toString l.packedSize) ++ ">"

def contentPlace (bytes : ByteArray) (l : Listing) : Except Fault (Nat × Packing) := do
  let place := l.offset.toNat
  if l.offset < 0 then throw .noSuchPlace
  if Nat.pow 2 63 ≤ place then throw .unreachablePlace
  if bytes.size < place + 30 then throw .cutOffHeader
  if numberAt bytes 4 place != memberMark then throw .badHeader
  if l.hasFlag 5 then throw .patched
  if l.hasFlag 6 then throw .stronglyEncrypted
  let nameEnd := place + 30 + numberAt bytes 2 (place + 26)
  let header := bytes.extract (place + 30) nameEnd
  let written ← nameOf (numberAt bytes 2 (place + 6)) header
  if written != l.written then throw (.namesDiffer l.written header.toList)
  let content := min bytes.size (nameEnd + numberAt bytes 2 (place + 28))
  if l.hasFlag 0 then throw (.encrypted l.description)
  match Packing.ofNumber? l.method with
  | none => throw .unknownMethod
  | some packing => return (content, packing)

/-- The bytes of a member whose place is known, or a fault with what is copied before it shows.
Bytes behind the member's size do not count, so they may be missing or broken as long as they are
not reached. -/
def content (bytes : ByteArray) (place : Nat) (packing : Packing) (l : Listing) :
    Except (Fault × ByteArray) ByteArray := do
  let packed := bytes.extract place (place + l.packedSize)
  if packed.isEmpty && l.packedSize != 0 then throw (.cutOffMember, .empty)
  let (out, ending) := packing.unpack packed
  let isShort := bytes.size < place + l.packedSize
  let reach := if isShort then packing.reach packed out else out.size
  if reach < out.size && reach < l.size then throw (.cutOffMember, portionsOf out reach)
  match ending with
  | .finished => pure ()
  | .unended => if isShort && reach < l.size then throw (.cutOffMember, portionsOf out reach)
  | .broken f =>
    if !packing.hidesFault out f l.size then throw (f, portionsOf out (packing.clearSize out f))
  let whole := out.extract 0 l.size
  if checksum whole != l.checksum then
    throw (.badChecksum l.name, packing.copiedToEnd packed whole)
  return whole

def lastNamed (listings : List Listing) (name : String) : Option Listing :=
  listings.reverse.find? (·.name == name)

end DroidAudit.Archive
