/-! The shortest decimal that reads back as a given double. A finite double is `m · 2 ^ q`; the
reals that round to it form an interval around it, and the decimal chosen is the one with the
fewest digits in that interval, the nearest to the double among those of that length. -/
namespace DroidAudit.Decimal

structure Ratio where
  num : Nat
  den : Nat
  deriving Repr

namespace Ratio

def lt (a b : Ratio) : Bool := a.num * b.den < b.num * a.den

def le (a b : Ratio) : Bool := a.num * b.den ≤ b.num * a.den

/-- `n · 2 ^ q`. -/
def scaled2 (n : Nat) (q : Int) : Ratio :=
  if 0 ≤ q then ⟨n * Nat.pow 2 q.toNat, 1⟩ else ⟨n, Nat.pow 2 (-q).toNat⟩

/-- `n · 10 ^ k`. -/
def scaled10 (n : Nat) (k : Int) : Ratio :=
  if 0 ≤ k then ⟨n * Nat.pow 10 k.toNat, 1⟩ else ⟨n, Nat.pow 10 (-k).toNat⟩

/-- The whole part of `r / 10 ^ k`. -/
def floorOver10 (r : Ratio) (k : Int) : Nat :=
  if 0 ≤ k then r.num / (r.den * Nat.pow 10 k.toNat) else r.num * Nat.pow 10 (-k).toNat / r.den

def distance (a b : Ratio) : Ratio :=
  let x := a.num * b.den
  let y := b.num * a.den
  ⟨if x ≤ y then y - x else x - y, a.den * b.den⟩

end Ratio

/-- A finite positive double: its value and the interval of reals that round to it, whose ends
belong to it when the significand is even. -/
structure Neighbourhood where
  value : Ratio
  low : Ratio
  high : Ratio
  closed : Bool

def Neighbourhood.contains (n : Neighbourhood) (r : Ratio) : Bool :=
  if n.closed then n.low.le r && r.le n.high else n.low.lt r && r.lt n.high

/-- Reads the significand and exponent out of the bits of a finite double without its sign. -/
def neighbourhood (bits : Nat) : Neighbourhood :=
  let fraction : Nat := bits % Nat.pow 2 52
  let exponent : Nat := bits / Nat.pow 2 52 % Nat.pow 2 11
  let m := if exponent = 0 then fraction else fraction + Nat.pow 2 52
  let q : Int := (if exponent = 0 then 1 else (exponent : Int)) - 1075
  { value := .scaled2 m q
    low := if fraction = 0 ∧ 1 < exponent then .scaled2 (4 * m - 1) (q - 2)
      else .scaled2 (2 * m - 1) (q - 1)
    high := .scaled2 (2 * m + 1) (q - 1)
    closed := m % 2 = 0 }

/-- The least `k` from `start` on with `value < 10 ^ k`. -/
def magnitudeFrom (value : Ratio) : Nat → Int → Int
  | 0, k => k
  | fuel + 1, k => if value.lt (.scaled10 1 k) then k else magnitudeFrom value fuel (k + 1)

/-- Digits `d` and exponent `k` stand for `d · 10 ^ k`. -/
abbrev Digits := Nat × Int

/-- The better of the two decimals of `n` digits next to the value, if one of them is near enough.
Of two at the same distance, the even one is better. -/
def ofLength? (v : Neighbourhood) (magnitude : Int) (n : Nat) : Option Digits :=
  let k := magnitude - n
  let d := v.value.floorOver10 k
  let below := Ratio.scaled10 d k
  let above := Ratio.scaled10 (d + 1) k
  match v.contains below && 0 < d, v.contains above with
  | true, true =>
    let down := below.distance v.value
    let up := above.distance v.value
    some (if down.lt up || (down.le up && d % 2 == 0) then (d, k) else (d + 1, k))
  | true, false => some (d, k)
  | false, true => some (d + 1, k)
  | false, false => none

def shortestFrom (v : Neighbourhood) (magnitude : Int) : Nat → Nat → Digits
  | 0, _ => (v.value.floorOver10 (magnitude - 17), magnitude - 17)
  | fuel + 1, n => (ofLength? v magnitude n).getD (shortestFrom v magnitude fuel (n + 1))

def shortest (bits : Nat) : Digits :=
  let v := neighbourhood bits
  shortestFrom v (magnitudeFrom v.value 700 (-330)) 17 1

/-- Drops trailing zeros of the digits, at most `fuel` of them. -/
def normalize : Nat → Digits → Digits
  | 0, d => d
  | fuel + 1, (d, k) => if d % 10 = 0 ∧ d ≠ 0 then normalize fuel (d / 10, k + 1) else (d, k)

/-- How a number is laid out: positional when its decimal point falls at most `low` places left
of the first digit and at most `high` right of it, with an exponent otherwise. -/
structure Layout where
  low : Int
  high : Int

def standard : Layout := ⟨-3, 16⟩

def zeros (n : Nat) : String := String.ofList (List.replicate n '0')

/-- Writes digits and exponent; the exponent has a sign and at least two digits. -/
def Layout.write (l : Layout) (d : Digits) : String :=
  let (m, k) := normalize 20 d
  let ds := toString m
  let point : Int := ds.length + k
  if l.low ≤ point && point ≤ l.high then
    if point ≤ 0 then "0." ++ zeros (-point).toNat ++ ds
    else if ds.length ≤ point.toNat then ds ++ zeros (point.toNat - ds.length) ++ ".0"
    else String.ofList (ds.toList.take point.toNat) ++ "." ++
      String.ofList (ds.toList.drop point.toNat)
  else
    let e := point - 1
    let es := toString e.natAbs
    let mantissa :=
      match ds.toList with
      | [] => ""
      | [c] => c.toString
      | c :: cs => c.toString ++ "." ++ String.ofList cs
    mantissa ++ "e" ++ (if e < 0 then "-" else "+") ++ (if es.length < 2 then "0" else "") ++ es

def text (x : Float) : String :=
  let bits := x.toBits.toNat
  let sign := if bits / Nat.pow 2 63 = 1 then "-" else ""
  let rest := bits % Nat.pow 2 63
  if rest / Nat.pow 2 52 = 2047 then
    if rest % Nat.pow 2 52 = 0 then sign ++ "inf" else "nan"
  else if rest = 0 then sign ++ "0.0"
  else sign ++ standard.write (shortest rest)

/-- The whole part of a finite double, towards zero. -/
def truncate? (x : Float) : Option Int :=
  let bits := x.toBits.toNat
  let rest := bits % Nat.pow 2 63
  if rest / Nat.pow 2 52 = 2047 then none
  else
    let r := (neighbourhood rest).value
    let n : Int := r.num / r.den
    some (if bits / Nat.pow 2 63 = 1 then -n else n)

/-- Whether a double is exactly the given whole number. -/
def isInteger (x : Float) (n : Int) : Bool :=
  match truncate? x with
  | none => false
  | some t => t = n && Id.run do
    let r := (neighbourhood (x.toBits.toNat % Nat.pow 2 63)).value
    return r.num % r.den = 0

end DroidAudit.Decimal
