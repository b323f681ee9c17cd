import DroidAudit.Text.Charset.DoubleByte

/-! Character sets in which signs between the characters choose the table for those that follow. -/
namespace DroidAudit.Text.Charset

/-! HZ: a tilde and a brace begin and end a stretch of two-byte characters. -/

/-- `wide` tells whether two bytes stand for one character. -/
def hz (wide : Bool) : List UInt8 → Head Bool
  | [] => .cutOff
  | 0x7e :: rest =>
    match rest with
    | [] => .cutOff
    | b :: _ =>
      if b == 0x7e && !wide then .chars ['~'] 2 wide
      else if b == 0x7b && !wide then .chars [] 2 true
      else if b == 0x0a && !wide then .chars [] 2 wide
      else if b == 0x7d && wide then .chars [] 2 false
      else .fault
  | a :: rest =>
    if 0x80 ≤ a then .fault
    else if !wide then .chars [Char.ofNat a.toNat] 1 wide
    else
      match rest with
      | [] => .cutOff
      | b :: _ =>
        match gb2312Char? (a.toNat + 0x80) (b.toNat + 0x80) with
        | some c => .chars [c] 2 wide
        | none => .fault

/-! ISO 2022: sequences that start with an escape sign put a table in one of three places. -/

structure Table where
  sign : Char
  wide : Bool
  deriving DecidableEq

namespace Table

def ascii : Table := ⟨'B', false⟩
def latin : Table := ⟨'A', false⟩
def greek : Table := ⟨'F', false⟩
def kana : Table := ⟨'I', false⟩
def roman : Table := ⟨'J', false⟩
def gb2312 : Table := ⟨'A', true⟩
def jis0208 : Table := ⟨'B', true⟩
def ksx1001 : Table := ⟨'C', true⟩
def jis0212 : Table := ⟨'D', true⟩
def jis0208Old : Table := ⟨'@', true⟩
def plane1Of2000 : Table := ⟨'O', true⟩
def plane2 : Table := ⟨'P', true⟩
def plane1Of2004 : Table := ⟨'Q', true⟩

def one? (t : Table) (a : Nat) : Option Char :=
  if t = roman then
    some (if a == 0x5c then '¥' else if a == 0x7e then '‾' else Char.ofNat a)
  else if t = kana then
    if 0x21 ≤ a && a ≤ 0x5f then some (Char.ofNat (0xff61 + (a - 0x21))) else none
  else none

def plane1? (edition : Edition) (a b : Nat) : Option (List Char) :=
  if a == 0x22 && b == 0x32 then some ['~'] else plane1Text? edition a b

def two? (t : Table) (edition : Edition) (a b : Nat) : Option (List Char) :=
  let single (c : Option Char) : Option (List Char) := c.map ([·])
  if t = gb2312 then single (gb2312Char? (a + 0x80) (b + 0x80))
  else if t = jis0208 || t = jis0208Old then single (jis0208Char? a b)
  else if t = ksx1001 then single (ksxChar? a b)
  else if t = jis0212 then single (jis0212Char? a b)
  else if t = plane1Of2000 then plane1? .of2000 a b
  else if t = plane1Of2004 then plane1? .of2004 a b
  else if t = plane2 then single (plane2Char? edition a b)
  else none

end Table

/-- A kind of ISO 2022: its tables, whether it shifts to the second place, uses the third one, and
knows the sequence for the revised table. -/
structure Iso2022 where
  tables : List Table
  shifts : Bool := false
  third : Bool := false
  revised : Bool := true
  edition : Edition := .of2004

namespace Iso2022

def kr : Iso2022 where
  tables := [.ksx1001]
  shifts := true
  revised := false

def jp : Iso2022 where
  tables := [.jis0208, .roman, .jis0208Old]

def jp1 : Iso2022 where
  tables := [.jis0208, .jis0212, .roman, .jis0208Old]

def jp2 : Iso2022 where
  tables :=
    [.jis0208, .jis0212, .ksx1001, .gb2312, .roman, .jis0208Old, .latin, .greek]
  third := true

def jp2004 : Iso2022 where
  tables := [.jis0208, .plane1Of2004, .plane2]

def jp3 : Iso2022 where
  tables := [.jis0208, .plane1Of2000, .plane2]
  edition := .of2000

def jpExtended : Iso2022 where
  tables := [.jis0208, .jis0212, .roman, .kana, .jis0208Old]

end Iso2022

/-- Where reading stands: the tables in the three places, whether the second is in use, and
whether a sequence of no known kind is passed on. -/
structure Places where
  first : Table := .ascii
  second : Table := .ascii
  third : Table := .ascii
  shifted : Bool := false
  passing : Bool := false

def endsSequence (b : UInt8) : Bool := b == 0x40 || (0x41 ≤ b && b ≤ 0x5a)

/-- The length of a sequence, from its second byte on. `i` counts bytes and has room for 16. -/
def sequenceLength (revised : Bool) : Nat → Nat → List UInt8 → Option (Option Nat)
  | _, 0, _ => some none
  | _, _ + 1, [] => none
  | i, room + 1, b :: rest =>
    if endsSequence b then some (some (i + 1))
    else if revised && b == 0x26 && rest.head? == some 0x40 then
      sequenceLength revised (i + 3) (room - 2) (rest.drop 2)
    else sequenceLength revised (i + 1) room rest
  termination_by _ room _ => room

/-- The place and the table that a whole sequence names. -/
def designation? (k : Iso2022) (bytes : List UInt8) : Option (Nat × Table) :=
  let sign (b : UInt8) : Char := Char.ofNat b.toNat
  match bytes with
  | [_, 0x24, c] => some (0, ⟨sign c, true⟩)
  | [_, 0x28, c] => some (0, ⟨sign c, false⟩)
  | [_, 0x29, c] => some (1, ⟨sign c, false⟩)
  | [_, 0x2e, c] => if k.third then some (2, ⟨sign c, false⟩) else none
  | [_, 0x24, 0x28, c] => some (0, ⟨sign c, true⟩)
  | [_, 0x24, 0x29, c] => some (1, ⟨sign c, true⟩)
  | [_, _, _, 0x1b, 0x24, 0x42] => if k.revised then some (0, .jis0208) else none
  | _ => none

def Places.put (p : Places) : Nat → Table → Places
  | 0, t => { p with first := t }
  | 1, t => { p with second := t }
  | _, t => { p with third := t }

/-- A sequence that names a table. At most eight bytes wait for its end. -/
def escapeSequence (k : Iso2022) (p : Places) (bytes : List UInt8) : Head Places :=
  match sequenceLength k.revised 1 15 (bytes.drop 1) with
  | none => if bytes.length ≤ 8 then .cutOff else .fault
  | some none => .fault
  | some (some n) =>
    match designation? k (bytes.take n) with
    | some (place, table) =>
      if table = .ascii || k.tables.contains table then .chars [] n (p.put place table) else .fault
    | none => .fault

def thirdChar? (p : Places) (b : Nat) : Option Char :=
  if p.third = .latin then if b < 0x80 then some (Char.ofNat (b + 0x80)) else none
  else if p.third = .greek then greekChar? (b ^^^ 0x80)
  else if p.third = .ascii then if b < 0x80 then some (Char.ofNat b) else none
  else none
where
  greekChar? (n : Nat) : Option Char :=
    if n < 0xa0 then some (Char.ofNat n)
    else if n < 0xc0 && (0x288f3bc9 >>> (n - 0xa0)) % 2 == 1 then some (Char.ofNat n)
    else if 0xb4 ≤ n && n ≤ 0xfe && (0xd4 ≤ n || (0xbffffd77 >>> (n - 0xb4)) % 2 == 1) then
      some (Char.ofNat (0x2d0 + n))
    else if n == 0xa1 then some '‘'
    else if n == 0xa2 then some '’'
    else if n == 0xaf then some '―'
    else none

def plainByte (b : UInt8) (p : Places) : Head Places := .chars [Char.ofNat b.toNat] 1 p

def inTable (k : Iso2022) (p : Places) (a : UInt8) (rest : List UInt8) : Head Places :=
  let table := if p.shifted then p.second else p.first
  if table = .ascii then plainByte a p
  else if table.wide then
    match rest with
    | [] => .cutOff
    | b :: _ =>
      match table.two? k.edition a.toNat b.toNat with
      | some cs => .chars cs 2 p
      | none => .fault
  else
    match table.one? a.toNat with
    | some c => .chars [c] 1 p
    | none => .fault

def iso2022 (k : Iso2022) (p : Places) : List UInt8 → Head Places
  | [] => .cutOff
  | a :: rest =>
    if p.passing then plainByte a { p with passing := !endsSequence a }
    else if a == 0x1b then
      match rest with
      | [] => .cutOff
      | b :: more =>
        if [0x28, 0x29, 0x24, 0x2e, 0x26].contains b then escapeSequence k p (a :: rest)
        else if k.third && b == 0x4e then
          match more with
          | [] => .cutOff
          | c :: _ =>
            match thirdChar? p c.toNat with
            | some c => .chars [c] 3 p
            | none => .fault
        else plainByte a { p with passing := true }
    else if k.shifts && a == 0x0f then .chars [] 1 { p with shifted := false }
    else if k.shifts && a == 0x0e then .chars [] 1 { p with shifted := true }
    else if a == 0x0a then plainByte a { p with shifted := false }
    else if a < 0x20 then plainByte a p
    else if 0x80 ≤ a then .fault
    else inTable k p a rest

end DroidAudit.Text.Charset
