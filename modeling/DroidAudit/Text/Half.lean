/-! Code points in text. Two units of sixteen bits may stand for one character, and text that comes
in units may hold one of them alone. No character is half of a pair, so private ones stand for
halves; where such a private character means itself, a mark stands in front of it. -/
namespace DroidAudit.Text

def isHigh (unit : Nat) : Bool := 0xd800 ≤ unit && unit < 0xdc00

def isLow (unit : Nat) : Bool := 0xdc00 ≤ unit && unit < 0xe000

def isHalf (point : Nat) : Bool := isHigh point || isLow point

def pairPoint (high low : Nat) : Nat := 0x10000 + 0x400 * (high - 0xd800) + (low - 0xdc00)

/-- The private character, at the end of the last plane, that stands for half of a pair. -/
def halfChar (unit : Nat) : Char := Char.ofNat (0x100000 + unit)

/-- The mark in front of a character that means itself: the private one before those for halves. -/
def selfMark : Char := Char.ofNat 0x10d7ff

/-- Characters that mean themselves only behind the mark: the mark, and those for halves. -/
def isReserved (c : Char) : Bool := 0x10d7ff ≤ c.toNat && c.toNat < 0x10e000

def ofChar (c : Char) : List Char := if isReserved c then [selfMark, c] else [c]

def ofChars (cs : List Char) : List Char := if cs.any isReserved then cs.flatMap ofChar else cs

def ofPoint (n : Nat) : List Char := if isHalf n then [halfChar n] else ofChar (Char.ofNat n)

def push (n : Nat) (done : List Char) : List Char := (ofPoint n).reverse ++ done

def pointOf (c : Char) : Nat :=
  if isReserved c && c != selfMark then c.toNat - 0x100000 else c.toNat

def points : List Char → List Nat
  | [] => []
  | [c] => [pointOf c]
  | c :: d :: cs =>
    if c == selfMark then d.toNat :: points cs else pointOf c :: points (d :: cs)

def length (cs : List Char) : Nat := (points cs).length

def cut : Nat → List Char → List Char × List Char
  | 0, cs => ([], cs)
  | _ + 1, [] => ([], [])
  | n + 1, c :: cs =>
    let size := if c == selfMark then 1 else 0
    let (front, rest) := cut n (cs.drop size)
    (c :: cs.take size ++ front, rest)

/-- Whether one text stands before another or is the same, by their code points. -/
def le (s t : String) : Bool := !(points t.toList).lex (points s.toList) Nat.blt

end DroidAudit.Text
