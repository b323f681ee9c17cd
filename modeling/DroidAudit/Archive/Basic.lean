import DroidAudit.Archive.Inflate
import DroidAudit.Text.Encoding

/-! Archives of files: members with names and bytes. Numbers in an archive are written lowest
byte first. -/
namespace DroidAudit.Archive

structure Member where
  name : String
  bytes : ByteArray

inductive LongNumber
  | size | packedSize | offset
  deriving Repr, DecidableEq

def LongNumber.label : LongNumber → String
  | size => "File size"
  | packedSize => "Compress size"
  | offset => "Header offset"

inductive Fault
  | notAnArchive
  | badOffset
  /-- The archive is spread over several parts. -/
  | severalParts
  | cutOffDirectory
  | badDirectory
  | badName (fault : Text.DecodeFault)
  | newVersion (tenths : Nat)
  | badField (kind size : Nat)
  | noLongNumber (number : LongNumber)
  | noSuchPlace
  | unreachablePlace
  | cutOffHeader
  | badHeader
  | emptyName
  | patched
  | stronglyEncrypted
  | namesDiffer (name : String) (header : List UInt8)
  | encrypted (member : String)
  | badChecksum (name : String)
  | unknownMethod
  | cutOffMember
  | deflated (f : InflateFault)
  /-- Blocks of sorted rotations that are none. -/
  | brokenBlocks
  /-- Bits that stand for no piece. -/
  | brokenBits
  | badSettings

def Fault.message : Fault → String
  | notAnArchive => "File is not a zip file"
  | badOffset => "Bad offset for central directory"
  | severalParts => "zipfiles that span multiple disks are not supported"
  | cutOffDirectory => "Truncated central directory"
  | badDirectory => "Bad magic number for central directory"
  | badName fault => fault.message
  | newVersion tenths =>
    "zip file version " ++ toString (tenths / 10) ++ "." ++ toString (tenths % 10)
  | badField kind size =>
    "Corrupt extra field " ++ String.ofList (Text.hexDigits 4 kind) ++ " (size=" ++
      toString size ++ ")"
  | noLongNumber number => "Corrupt zip64 extra field. " ++ number.label ++ " not found."
  | noSuchPlace => "[Errno 22] Invalid argument"
  | unreachablePlace => "cannot fit 'int' into an offset-sized integer"
  | cutOffHeader => "Truncated file header"
  | badHeader => "Bad magic number for file header"
  | emptyName => "string index out of range"
  | patched => "compressed patched data (flag bit 5)"
  | stronglyEncrypted => "strong encryption (flag bit 6)"
  | namesDiffer name header =>
    "File name in directory " ++ Text.quoted name ++ " and header " ++ Text.quotedBytes header ++
      " differ."
  | encrypted member => "File " ++ member ++ " is encrypted, password required for extraction"
  | badChecksum name => "Bad CRC-32 for file " ++ Text.quoted name
  | unknownMethod => "That compression method is not supported"
  | cutOffMember => ""
  | deflated f => f.message
  | brokenBlocks => "Invalid data stream"
  | brokenBits => "Corrupt input data"
  | badSettings => "Invalid or unsupported options"

def checksumBit (r : UInt32) : UInt32 :=
  if r &&& 1 == 1 then (r >>> 1) ^^^ 0xEDB88320 else r >>> 1

def checksumByte (r : UInt32) (b : UInt8) : UInt32 :=
  (List.range 8).foldl (fun r _ => checksumBit r) (r ^^^ b.toUInt32)

def checksum (bytes : ByteArray) : Nat :=
  ((bytes.data.foldl checksumByte 0xFFFFFFFF) ^^^ 0xFFFFFFFF).toNat

/-- A number in `width` bytes. -/
def numberBytes : Nat → Nat → List UInt8
  | 0, _ => []
  | width + 1, n => n.toUInt8 :: numberBytes width (n / 256)

/-- The number in `width` bytes from a place on; bytes behind the end count as zero. -/
def numberAt (bytes : ByteArray) : Nat → Nat → Nat
  | 0, _ => 0
  | width + 1, place => (bytes[place]?.getD 0).toNat + 256 * numberAt bytes width (place + 1)

/-- The marks in front of a member, of an entry of the directory, and of the archive's end. -/
def memberMark : Nat := 0x04034B50

def entryMark : Nat := 0x02014B50

def endMark : Nat := 0x06054B50

def longEndMark : Nat := 0x06064B50

def locatorMark : Nat := 0x07064B50

end DroidAudit.Archive
