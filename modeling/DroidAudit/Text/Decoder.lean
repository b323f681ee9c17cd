import DroidAudit.Text.Half

/-! Reading characters off the front of bytes. Bytes come in blocks; those of a character that goes
on in the next block wait for it. -/
namespace DroidAudit.Text

/-- A way to read characters. A step takes the bytes at hand, tells whether they are the last ones,
and gives the characters, the state behind them and the bytes that wait. -/
structure Decoder where
  State : Type
  start : State
  step : Bool → State → List UInt8 → Option (List Char × State × List UInt8)

namespace Decoder

def readFrom (d : Decoder) (s : d.State) (waiting : List UInt8) :
    List (List UInt8) → List Char × Bool
  | [] =>
    match d.step true s waiting with
    | some (cs, _, _) => (cs, true)
    | none => ([], false)
  | block :: blocks =>
    match d.step false s (waiting ++ block) with
    | some (cs, s, waiting) =>
      let (more, complete) := d.readFrom s waiting blocks
      (cs ++ more, complete)
    | none => ([], false)

def read (d : Decoder) (blocks : List (List UInt8)) : List Char × Bool :=
  d.readFrom d.start [] blocks

end Decoder

inductive Head (σ : Type)
  | chars (cs : List Char) (size : Nat) (next : σ)
  /-- The bytes end inside of a character. -/
  | cutOff
  | fault

/-- Reads one character after the other. `done` holds what is read, last character first; `skip`
counts bytes of the character read last. -/
def headsFrom {σ : Type} (head : σ → List UInt8 → Head σ) (final : Bool) :
    σ → List Char → Nat → List UInt8 → Option (List Char × σ × List UInt8)
  | s, done, _, [] => some (done.reverse, s, [])
  | s, done, skip + 1, _ :: rest => headsFrom head final s done skip rest
  | s, done, 0, b :: rest =>
    match head s (b :: rest) with
    | .chars cs size next => headsFrom head final next (cs.reverse ++ done) (size - 1) rest
    | .cutOff => if final then none else some (done.reverse, s, b :: rest)
    | .fault => none

/-- The characters up to the first that cannot be read, and whether that one lacks bytes. -/
def charsUntil (head : List UInt8 → Head Unit) :
    List Char → Nat → List UInt8 → List Char × Option Bool
  | done, _, [] => (done.reverse, none)
  | done, skip + 1, _ :: rest => charsUntil head done skip rest
  | done, 0, b :: rest =>
    match head (b :: rest) with
    | .chars cs size _ => charsUntil head (cs.reverse ++ done) (size - 1) rest
    | .cutOff => (done.reverse, some true)
    | .fault => (done.reverse, some false)

def Decoder.ofHeads {σ : Type} (start : σ) (head : Bool → σ → List UInt8 → Head σ) : Decoder where
  State := σ
  start := start
  step := fun final s bytes => headsFrom (head final) final s [] 0 bytes

def Decoder.ofHead (head : List UInt8 → Head Unit) : Decoder :=
  .ofHeads () fun _ _ => head

namespace Head

def one (c : Option Char) (size : Nat) : Head Unit :=
  match c with
  | some c => .chars (ofChar c) size ()
  | none => .fault

def ascii (b : UInt8) : Head Unit := .chars [Char.ofNat b.toNat] 1 ()

end Head

end DroidAudit.Text
