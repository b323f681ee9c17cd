import DroidAudit.Text.Charset.Big5
import DroidAudit.Text.Charset.Gbk
import DroidAudit.Text.Charset.Jis
import DroidAudit.Text.Charset.Jis0212
import DroidAudit.Text.Charset.Ksx1001
import DroidAudit.Text.Decoder

/-! Character sets of East Asia in which a character takes one byte or two, seldom more. -/
namespace DroidAudit.Text.Charset

def doubleByte (char? : Nat → Nat → Option Char) : List UInt8 → Head Unit
  | [] => .cutOff
  | [a] => if a < 0x80 then .ascii a else .cutOff
  | a :: b :: _ => if a < 0x80 then .ascii a else .one (char? a.toNat b.toNat) 2

/-! Chinese -/

def gbkChar? (a b : Nat) : Option Char :=
  if 0x40 ≤ b && b < 0x7f then gbk.char? a (b - 0x40)
  else if 0x80 ≤ b && b < 0xff then gbk.char? a (b - 0x41)
  else none

def gb2312Char? (a b : Nat) : Option Char :=
  let code := 256 * a + b
  if a < 0xa1 || b < 0xa1 || isIn gb2312Lacks code then none
  else if code == 0xa1a4 then some '・'
  else if code == 0xa1aa then some '―'
  else gbkChar? a b

def gb18030Char? (a b : Nat) : Option Char :=
  (gbkChar? a b).or (charIn? gb18030Added (256 * a + b))

/-- Four bytes number the characters that have no shorter form. -/
def gb18030LongChar? (a b c d : Nat) : Option Char :=
  if a < 0x81 || 0xfe < a || c < 0x81 || 0xfe < c || d < 0x30 || 0x39 < d then none
  else
    let number := ((a - 0x81) * 10 + (b - 0x30)) * 1260 + (c - 0x81) * 10 + (d - 0x30)
    if a ≤ 0x84 then gb18030Long[number]?
    else if 0x90 ≤ a && number < 189000 + 0x100000 then
      some (Char.ofNat (0x10000 + (number - 189000)))
    else none

def gb18030 : List UInt8 → Head Unit
  | [] => .cutOff
  | a :: rest =>
    if a < 0x80 then .ascii a
    else
      match rest with
      | [] => .cutOff
      | b :: more =>
        if 0x30 ≤ b && b ≤ 0x39 then
          match more with
          | c :: d :: _ => .one (gb18030LongChar? a.toNat b.toNat c.toNat d.toNat) 4
          | _ => .cutOff
        else .one (gb18030Char? a.toNat b.toNat) 2

def big5Column? (b : Nat) : Option Nat :=
  if 0x40 ≤ b && b < 0x7f then some (b - 0x40)
  else if 0xa1 ≤ b && b < 0xff then some (b - 0xa1 + 63)
  else none

def big5Char? (a b : Nat) : Option Char := (big5Column? b).bind (big5.char? a)

def page950Char? (a b : Nat) : Option Char :=
  (charIn? page950Changes (256 * a + b)).or (big5Char? a b)

def hongKongText? (a b : Nat) : Option (List Char) :=
  let code := 256 * a + b
  match hongKongPairs.lookup code, big5Column? b with
  | some pair, _ => some pair.toList
  | none, none => none
  | none, some column =>
    if 0xc6a1 ≤ code && code < 0xc900 then (hongKongInside.char? a column).map ([·])
    else
      ((big5.char? a column).or
        ((hongKongLow.char? a column).or (hongKongHigh.char? a column))).map ([·])

def big5HongKong : List UInt8 → Head Unit
  | [] => .cutOff
  | [a] => if a < 0x80 then .ascii a else .cutOff
  | a :: b :: _ =>
    if a < 0x80 then .ascii a
    else
      match hongKongText? a.toNat b.toNat with
      | some cs => .chars cs 2 ()
      | none => .fault

/-! Japanese. Rows and columns count from 0x21. -/

def isCell (row column : Nat) : Bool :=
  0x21 ≤ row && row ≤ 0x7e && 0x21 ≤ column && column ≤ 0x7e

def jis0208Char? (row column : Nat) : Option Char :=
  if isCell row column && isIn jis0208Codes (256 * row + column) then
    jisPlane1.char? row (column - 0x21)
  else none

def jis0212Char? (row column : Nat) : Option Char :=
  if isCell row column then jis0212.char? row (column - 0x21) else none

inductive Edition
  | of2000
  | of2004
  deriving DecidableEq

def addedIn2004 : List (Nat × Nat) :=
  [(0x2e21, 0x2e21), (0x2f7e, 0x2f7e), (0x4f54, 0x4f54), (0x4f7e, 0x4f7e), (0x7427, 0x7427),
   (0x7e7a, 0x7e7e)]

def plane1Text? (edition : Edition) (row column : Nat) : Option (List Char) :=
  let code := 256 * row + column
  if !isCell row column then none
  else if edition = .of2000 && isIn addedIn2004 code then none
  else
    match jisPairs.lookup code with
    | some pair => some pair.toList
    | none => (jisPlane1.char? row (column - 0x21)).map ([·])

def plane2Char? (edition : Edition) (row column : Nat) : Option Char :=
  if !isCell row column then none
  else if edition = .of2000 && row == 0x7d && column == 0x3b then some '鬝'
  else
    (jisPlane2Low.char? row (column - 0x21)).or (jisPlane2High.char? row (column - 0x21))

def kanaChar? (b : UInt8) : Option Char :=
  if 0xa1 ≤ b && b ≤ 0xdf then some (Char.ofNat (0xff61 + (b.toNat - 0xa1))) else none

/-- The row and column of two bytes in which two rows share a first byte. The rows go on behind
the square. -/
def shiftedCell? (a b : Nat) : Option (Nat × Nat) :=
  if b < 0x40 || b == 0x7f || 0xfc < b then none
  else
    let lead := if a < 0xe0 then a - 0x81 else a - 0xc1
    let place := if b < 0x80 then b - 0x40 else b - 0x41
    some (2 * lead + place / 94 + 0x21, place % 94 + 0x21)

def shiftJis : List UInt8 → Head Unit
  | [] => .cutOff
  | a :: rest =>
    if a < 0x80 then .ascii a
    else if let some c := kanaChar? a then .chars [c] 1 ()
    else if (0x81 ≤ a && a ≤ 0x9f) || (0xe0 ≤ a && a ≤ 0xea) then
      match rest with
      | [] => .cutOff
      | b :: _ =>
        match shiftedCell? a.toNat b.toNat with
        | some (row, column) => .one (jis0208Char? row column) 2
        | none => .fault
    else .fault

def page932Row? (row : Nat) : Option Nat :=
  if row == 0x2d then some 0
  else if 0x79 ≤ row && row ≤ 0x7c then some (row - 0x78)
  else if 0x93 ≤ row && row ≤ 0x97 then some (row - 0x8e)
  else none

/-- A character of code page 932; rows without a standard are private. -/
def page932Char? (row column : Nat) : Option Char :=
  if 0x7f ≤ row && row ≤ 0x92 then
    some (Char.ofNat (0xe000 + (row - 0x7f) * 94 + (column - 0x21)))
  else
    ((charIn? page932Changes (256 * row + column)).or (jis0208Char? row column)).or
      ((page932Row? row).bind fun r => page932Added.char? r (column - 0x21))

def page932 : List UInt8 → Head Unit
  | [] => .cutOff
  | a :: rest =>
    if a ≤ 0x80 then .ascii a
    else if let some c := kanaChar? a then .chars [c] 1 ()
    else if a == 0xa0 then .chars [''] 1 ()
    else if 0xfd ≤ a then .chars [Char.ofNat (0xf8f1 + (a.toNat - 0xfd))] 1 ()
    else
      match rest with
      | [] => .cutOff
      | b :: _ =>
        match shiftedCell? a.toNat b.toNat with
        | some (row, column) => .one (page932Char? row column) 2
        | none => .fault

def secondRow (row : Nat) : Nat :=
  if 0x88 ≤ row then row - 0x1a
  else if 0x84 ≤ row || row == 0x80 then row - 0x58
  else row - 0x5e

def shiftJisText? (edition : Edition) (row column : Nat) : Option (List Char) :=
  if row == 0x21 && column == 0x40 then some ['\\']
  else if row == 0x22 && column == 0x32 then some ['~']
  else if row ≤ 0x7e then plane1Text? edition row column
  else (plane2Char? edition (secondRow row) column).map ([·])

def shiftJis0213 (edition : Edition) : List UInt8 → Head Unit
  | [] => .cutOff
  | a :: rest =>
    if a == 0x5c then .chars ['¥'] 1 ()
    else if a == 0x7e then .chars ['‾'] 1 ()
    else if a < 0x80 then .ascii a
    else if let some c := kanaChar? a then .chars [c] 1 ()
    else if (0x81 ≤ a && a ≤ 0x9f) || (0xe0 ≤ a && a ≤ 0xfc) then
      match rest with
      | [] => .cutOff
      | b :: _ =>
        match shiftedCell? a.toNat b.toNat with
        | none => .fault
        | some (row, column) =>
          match shiftJisText? edition row column with
          | some cs => .chars cs 2 ()
          | none => .fault
    else .fault

/-- Bytes from 0xa1 on give row and column; a byte in front chooses other tables. -/
def eucJapanese (main : Nat → Nat → Option (List Char)) (other : Nat → Nat → Option Char) :
    List UInt8 → Head Unit
  | [] => .cutOff
  | a :: rest =>
    if a < 0x80 then .ascii a
    else
      match rest with
      | [] => .cutOff
      | b :: more =>
        if a == 0x8e then .one (kanaChar? b) 2
        else if a == 0x8f then
          match more with
          | [] => .cutOff
          | c :: _ => .one (other (b.toNat ^^^ 0x80) (c.toNat ^^^ 0x80)) 3
        else
          match main (a.toNat ^^^ 0x80) (b.toNat ^^^ 0x80) with
          | some cs => .chars cs 2 ()
          | none => .fault

def eucJp : List UInt8 → Head Unit :=
  eucJapanese (fun row column => (jis0208Char? row column).map ([·])) jis0212Char?

def eucJis0213 (edition : Edition) : List UInt8 → Head Unit :=
  eucJapanese (plane1Text? edition)
    (fun row column => (plane2Char? edition row column).or (jis0212Char? row column))

/-! Korean -/

def ksxChar? (row column : Nat) : Option Char :=
  if isCell row column then ksx1001.char? row (column - 0x21) else none

def syllable (initial vowel final : Nat) : Char :=
  Char.ofNat (0xac00 + (initial * 21 + vowel) * 28 + final)

/-- The number of `b` among the bytes of `sounds`. -/
def soundOf? (sounds : List Nat) (b : Nat) : Option Nat :=
  let n := sounds.idxOf b
  if n < sounds.length then some n else none

def initialSounds : List Nat :=
  [0xa1, 0xa2, 0xa4, 0xa7, 0xa8, 0xa9, 0xb1, 0xb2, 0xb3, 0xb5, 0xb6, 0xb7, 0xb8, 0xb9, 0xba, 0xbb,
   0xbc, 0xbd, 0xbe]

def finalSounds : List Nat :=
  [0xd4, 0xa1, 0xa2, 0xa3, 0xa4, 0xa5, 0xa6, 0xa7, 0xa9, 0xaa, 0xab, 0xac, 0xad, 0xae, 0xaf, 0xb0,
   0xb1, 0xb2, 0xb4, 0xb5, 0xb6, 0xb7, 0xb8, 0xba, 0xbb, 0xbc, 0xbd, 0xbe]

def composed? (initial vowel final : Nat) : Option Char := do
  let i ← soundOf? initialSounds initial
  let f ← soundOf? finalSounds final
  if 0xbf ≤ vowel && vowel ≤ 0xd3 then some (syllable i (vowel - 0xbf) f) else none

def eucKr : List UInt8 → Head Unit
  | [] => .cutOff
  | [a] => if a < 0x80 then .ascii a else .cutOff
  | a :: b :: rest =>
    if a < 0x80 then .ascii a
    else if a == 0xa4 && b == 0xd4 then
      match rest with
      | c :: initial :: d :: vowel :: e :: final :: _ =>
        if c == 0xa4 && d == 0xa4 && e == 0xa4 then
          .one (composed? initial.toNat vowel.toNat final.toNat) 8
        else .fault
      | _ => .cutOff
    else .one (ksxChar? (a.toNat ^^^ 0x80) (b.toNat ^^^ 0x80)) 2

/-- The numbers of the first list that are not in the second, both in rising order. -/
def missing : List Nat → List Nat → List Nat
  | [], _ => []
  | all, [] => all
  | n :: all, k :: known =>
    if n < k then n :: missing all (k :: known)
    else if n == k then missing all known
    else missing (n :: all) known
  termination_by all known => all.length + known.length

def rareSyllables : Array Nat :=
  let known := ((ksx1001.rows.drop 15).take 25).flatMap fun row => row.toList.map Char.toNat
  (missing (List.range' 0xac00 11172) (known.filter (0xac00 ≤ ·))).toArray

/-- The number of two bytes among those that stand for rare syllables. -/
def rareNumber? (a b : Nat) : Option Nat :=
  let column : Option Nat :=
    if 0x41 ≤ b && b ≤ 0x5a then some (b - 0x41)
    else if 0x61 ≤ b && b ≤ 0x7a then some (b - 0x61 + 26)
    else if 0x81 ≤ b && b ≤ 0xfe then some (b - 0x81 + 52)
    else none
  match column with
  | none => none
  | some column =>
    if 0x81 ≤ a && a ≤ 0xa0 then some ((a - 0x81) * 178 + column)
    else if 0xa1 ≤ a && column < 84 then some (32 * 178 + (a - 0xa1) * 84 + column)
    else none

def page949Char? (a b : Nat) : Option Char :=
  (ksxChar? (a ^^^ 0x80) (b ^^^ 0x80)).or
    ((rareNumber? a b).bind fun n => rareSyllables[n]?.map Char.ofNat)

/-- What five bits stand for: nothing, the absence of a sound, or a sound with the letter that
shows it alone. -/
inductive Sound
  | none
  | absent
  | sound (number letter : Nat)

/-- The sounds from `first` on, `low` to `high`; some bits in between stand for nothing. -/
def soundIn (absent low : Nat) (letters : List (Nat × Nat)) (bits : Nat) : Sound :=
  if bits == absent then .absent
  else if bits < low then .none
  else
    match letters[bits - low]? with
    | some (number, letter) => if letter == 0 then .none else .sound number letter
    | .none => .none

/-- Letters of sounds with their numbers; a zero stands for a gap. -/
def withNumbers (first : Nat) : List Nat → List (Nat × Nat)
  | [] => []
  | 0 :: rest => (0, 0) :: withNumbers first rest
  | letter :: rest => (first, letter) :: withNumbers (first + 1) rest

def johabInitials : List (Nat × Nat) :=
  withNumbers 0
    [0x31, 0x32, 0x34, 0x37, 0x38, 0x39, 0x41, 0x42, 0x43, 0x45, 0x46, 0x47, 0x48, 0x49, 0x4a, 0x4b,
     0x4c, 0x4d, 0x4e]

def johabVowels : List (Nat × Nat) :=
  withNumbers 0
    [0x4f, 0x50, 0x51, 0x52, 0x53, 0, 0, 0x54, 0x55, 0x56, 0x57, 0x58, 0x59, 0, 0, 0x5a, 0x5b, 0x5c,
     0x5d, 0x5e, 0x5f, 0, 0, 0x60, 0x61, 0x62, 0x63]

def johabFinals : List (Nat × Nat) :=
  withNumbers 1
    [0x31, 0x32, 0x33, 0x34, 0x35, 0x36, 0x37, 0x39, 0x3a, 0x3b, 0x3c, 0x3d, 0x3e, 0x3f, 0x40, 0x41,
     0, 0x42, 0x44, 0x45, 0x46, 0x47, 0x48, 0x4a, 0x4b, 0x4c, 0x4d, 0x4e]

/-- Three groups of five bits are the sounds of a syllable. -/
def johabSyllable? (a b : Nat) : Option Char :=
  let code := 256 * a + b
  let letter (n : Nat) : Option Char := some (Char.ofNat (0x3100 + n))
  match soundIn 1 2 johabInitials (code / 1024 % 32), soundIn 2 3 johabVowels (code / 32 % 32),
    soundIn 1 2 johabFinals (code % 32) with
  | .absent, .absent, .absent => some '　'
  | .absent, .absent, .sound _ l => letter l
  | .absent, .sound _ l, .absent => letter l
  | .sound _ l, .absent, .absent => letter l
  | .sound i _, .sound v _, .absent => some (syllable i v 0)
  | .sound i _, .sound v _, .sound f _ => some (syllable i v f)
  | _, _, _ => none

/-- Other characters stand behind the syllables, two rows to a first byte. -/
def johabSymbol? (a b : Nat) : Option Char :=
  if a < 0xd9 || a == 0xdf || 0xf9 < a || b < 0x31 || (0x7f ≤ b && b < 0x91) || b == 0xff ||
      (a == 0xda && 0xa1 ≤ b && b ≤ 0xd3) then none
  else
    let lead := if a < 0xe0 then 2 * (a - 0xd9) else 2 * a - 0x197
    let place := if b < 0x91 then b - 0x31 else b - 0x43
    ksxChar? (lead + place / 94 + 0x21) (place % 94 + 0x21)

def johabChar? (a b : Nat) : Option Char :=
  if a < 0xd8 then johabSyllable? a b else johabSymbol? a b

end DroidAudit.Text.Charset
