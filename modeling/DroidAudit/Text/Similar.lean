import DroidAudit.Text.Half

/-! How much two texts have in common: the longest block that stands in both, and then, again and
again, the longest blocks before and behind it. -/
namespace DroidAudit.Text

/-- How far two rows of code points agree from the first on. -/
def commonStart : List Nat → List Nat → Nat
  | a :: as, b :: bs => if a == b then commonStart as bs + 1 else 0
  | _, _ => 0

/-- A block at places `first` and `second` of two texts. -/
structure Block where
  first : Nat
  second : Nat
  size : Nat

/-- The longest common block; of several the first in the first text, then in the second. -/
def longestBlock (as bs : List Nat) : Block :=
  let places := (List.range as.length).flatMap fun i => (List.range bs.length).map fun j => (i, j)
  places.foldl
    (fun best (i, j) =>
      let size := commonStart (as.drop i) (bs.drop j)
      if best.size < size then ⟨i, j, size⟩ else best)
    ⟨0, 0, 0⟩

def sharedWithin : Nat → List Nat → List Nat → Nat
  | 0, _, _ => 0
  | fuel + 1, as, bs =>
    let block := longestBlock as bs
    if block.size == 0 then 0
    else
      block.size + sharedWithin fuel (as.take block.first) (bs.take block.second) +
        sharedWithin fuel (as.drop (block.first + block.size))
          (bs.drop (block.second + block.size))

def shared (as bs : List Nat) : Nat := sharedWithin (as.length + 1) as bs

/-- A candidate and how like the word it is: twice the code points shared, over all of them. -/
structure Likeness where
  candidate : String
  shared : Nat
  total : Nat

def Likeness.of (word candidate : String) : Likeness :=
  let cs := points candidate.toList
  let ws := points word.toList
  ⟨candidate, Text.shared cs ws, cs.length + ws.length⟩

def Likeness.isClose (l : Likeness) : Bool := 3 * l.total ≤ 10 * l.shared

def Likeness.precedes (l m : Likeness) : Bool :=
  m.shared * l.total < l.shared * m.total ||
    (m.shared * l.total == l.shared * m.total && m.candidate ≤ l.candidate)

def closeMatches (word : String) (candidates : List String) : List String :=
  (((candidates.map (Likeness.of word)).filter (·.isClose)).mergeSort Likeness.precedes).take 3
    |>.map (·.candidate)

end DroidAudit.Text
