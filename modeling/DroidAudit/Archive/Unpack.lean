import DroidAudit.Archive.Basic
import DroidAudit.Archive.Bzip2

/-! The ways in which members of an archive are packed. -/
namespace DroidAudit.Archive

inductive Packing
  | stored
  | deflated
  /-- Blocks of sorted rotations. -/
  | sorted
  /-- Bits by their chances. -/
  | coded
  deriving Repr, DecidableEq

def Packing.ofNumber? : Nat → Option Packing
  | 0 => some .stored
  | 8 => some .deflated
  | 12 => some .sorted
  | 14 => some .coded
  | _ => none

inductive Ending
  | finished
  /-- More bytes are needed. -/
  | unended
  | broken (f : Fault)

/-- What the bytes of a member stand for, and how they end. Stored bytes never end by themselves. -/
def Packing.unpack (bytes : ByteArray) : Packing → ByteArray × Ending
  | .stored => (bytes, .unended)
  | .deflated =>
    match inflate bytes with
    | (out, .ok _) => (out, .finished)
    | (out, .error .cutOff) | (out, .error .cutOffStored) => (out, .unended)
    | (out, .error f) => (out, .broken (.deflated f))
  | .sorted =>
    match Bzip2.unpack bytes with
    | (out, none) => (out, .finished)
    | (out, some .cutOff) => (out, .unended)
    | (out, some .broken) => (out, .broken .brokenBlocks)
  | .coded =>
    match Lzma.unpack bytes with
    | (out, none) => (out, .finished)
    | (out, some .cutOff) => (out, .unended)
    | (out, some .broken) => (out, .broken .brokenBits)
    | (out, some .badSettings) => (out, .broken .badSettings)

def portion : Nat := 65536

def portionsOf (out : ByteArray) (size : Nat) : ByteArray :=
  out.extract 0 (size / portion * portion)

/-- How many bytes can be asked for before the fault behind the bytes of `out` shows. Deflated bytes
are read on until there is something to be written, and only they are unpacked portion by
portion. -/
def Packing.clearSize (packing : Packing) (out : ByteArray) (f : Fault) : Nat :=
  match packing, f with
  | .deflated, .deflated .tooFarBack => out.size
  | .deflated, _ => out.size - 1
  | _, _ => 0

/-- Whether so many bytes of a member are read before the fault behind the bytes of `out` shows. -/
def Packing.hidesFault (packing : Packing) (out : ByteArray) (f : Fault) (size : Nat) : Bool :=
  max 1 ((size + portion - 1) / portion) * portion ≤ packing.clearSize out f

/-- What is copied of a whole member before its end is reached. When deflated bytes are used up, all
that they stand for belongs to the last portion. -/
def Packing.copiedToEnd (packed whole : ByteArray) : Packing → ByteArray
  | .stored => portionsOf whole (whole.size - 1)
  | .deflated => portionsOf whole (min whole.size ((sizeBeforeLast packed).getD whole.size) - 1)
  | _ => .empty

/-- How many of the bytes of `out` can be read if packed bytes are missing behind those given. A
second portion is never begun then. -/
def Packing.reach (packed out : ByteArray) : Packing → Nat
  | .deflated => if packed.size ≤ portion then min out.size portion else out.size
  | _ => out.size

end DroidAudit.Archive
