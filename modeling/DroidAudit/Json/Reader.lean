import DroidAudit.Json.Writer

/-! Reading structured data. The readers take the characters that are left and give back what
remains after the part they have read. -/
namespace DroidAudit.Json

def isSpace (c : Char) : Bool := c == ' ' || c == '\n' || c == '\r' || c == '\t'

def hexValue? (c : Char) : Option Nat :=
  if c.isDigit then some (c.toNat - 48)
  else if 97 ≤ c.toNat && c.toNat ≤ 102 then some (c.toNat - 87)
  else if 65 ≤ c.toNat && c.toNat ≤ 70 then some (c.toNat - 55)
  else none

/-- Four hexadecimal digits: one unit of sixteen bits. -/
def unit? : List Char → Option (Nat × List Char)
  | a :: b :: c :: d :: cs => do
    let a ← hexValue? a
    let b ← hexValue? b
    let c ← hexValue? c
    let d ← hexValue? d
    some (a * 4096 + b * 256 + c * 16 + d, cs)
  | _ => none

def pairOr (n : Nat) (rest : List Char) : Nat × List Char :=
  match rest with
  | '\\' :: 'u' :: more =>
    match unit? more with
    | some (m, rest') =>
      if Text.isHigh n && Text.isLow m then (Text.pairPoint n m, rest') else (n, rest)
    | none => (n, rest)
  | _ => (n, rest)

def simpleEscape? (c : Char) : Option Char :=
  if c == '"' || c == '\\' || c == '/' then some c
  else if c == 'n' then some '\n'
  else if c == 't' then some '\t'
  else if c == 'r' then some '\r'
  else if c == 'b' then some (Char.ofNat 8)
  else if c == 'f' then some (Char.ofNat 12)
  else none

/-- The rest of a text after its opening quote; `done` holds what was read, last first. -/
def readText : Nat → List Char → List Char → Option (String × List Char)
  | 0, _, _ => none
  | _ + 1, _, [] => none
  | fuel + 1, done, c :: cs =>
    if c == '"' then some (String.ofList done.reverse, cs)
    else if c != '\\' then readText fuel (Text.push c.toNat done) cs
    else
      match cs with
      | 'u' :: cs => do
        let (n, rest) ← unit? cs
        let (n, rest) := pairOr n rest
        readText fuel (Text.push n done) rest
      | c :: cs => do
        let e ← simpleEscape? c
        readText fuel (e :: done) cs
      | [] => none

def naturalOf (ds : List Char) : Nat := ds.foldl (fun n c => 10 * n + (c.toNat - 48)) 0

def readExponent (cs : List Char) : Option (Int × List Char) :=
  let digits (negative : Bool) (cs : List Char) : Option (Int × List Char) :=
    let ds := cs.takeWhile Char.isDigit
    if ds.isEmpty then none
    else some (if negative then -(naturalOf ds : Int) else naturalOf ds, cs.dropWhile Char.isDigit)
  match cs with
  | c :: cs' =>
    if c == 'e' || c == 'E' then
      match cs' with
      | '-' :: r => digits true r
      | '+' :: r => digits false r
      | r => digits false r
    else some (0, c :: cs')
  | [] => some (0, [])

def infinity : Float := 1.0 / 0.0

/-- `m · 10 ^ e` as a double. Powers beyond all doubles are not worked out. -/
def realOf (m : Nat) (e : Int) : Float :=
  if m = 0 || e < -(m.log2 + 1100 : Int) then 0.0
  else if 400 < e then infinity
  else if 0 ≤ e then Float.ofScientific m false e.toNat else Float.ofScientific m true (-e).toNat

def readNumber (negative : Bool) (cs : List Char) : Option (Json × List Char) :=
  let whole := cs.takeWhile Char.isDigit
  let rest := cs.dropWhile Char.isDigit
  if whole.isEmpty then none
  else
    let signed (x : Float) : Json := .real (if negative then -x else x)
    match rest with
    | '.' :: r => do
      let fraction := r.takeWhile Char.isDigit
      let (e, r') ← readExponent (r.dropWhile Char.isDigit)
      some (signed (realOf (naturalOf (whole ++ fraction)) (e - fraction.length)), r')
    | c :: _ =>
      if c == 'e' || c == 'E' then do
        let (e, r') ← readExponent rest
        some (signed (realOf (naturalOf whole) e), r')
      else some (.int (if negative then -(naturalOf whole : Int) else naturalOf whole), rest)
    | [] => some (.int (if negative then -(naturalOf whole : Int) else naturalOf whole), rest)

/-- Adds an entry; a key that is there already takes the new value in its old place. -/
def putEntry (key : String) (v : Json) : List (String × Json) → List (String × Json)
  | [] => [(key, v)]
  | (k, w) :: es => if k == key then (k, v) :: es else (k, w) :: putEntry key v es

/-- The value that characters open with. What follows a bracket or a brace is left to the readers
of items and of entries. -/
def readOpened (items entries : List Char → Option (Json × List Char)) :
    List Char → Option (Json × List Char)
  | '"' :: r => (readText (r.length + 1) [] r).map fun (s, r') => (.text s, r')
  | '[' :: r =>
    match r.dropWhile isSpace with
    | ']' :: r' => some (.array [], r')
    | _ => items r
  | '\x7b' :: r =>
    match r.dropWhile isSpace with
    | '\x7d' :: r' => some (.object [], r')
    | _ => entries r
  | 't' :: 'r' :: 'u' :: 'e' :: r => some (.bool true, r)
  | 'f' :: 'a' :: 'l' :: 's' :: 'e' :: r => some (.bool false, r)
  | 'n' :: 'u' :: 'l' :: 'l' :: r => some (.null, r)
  | 'N' :: 'a' :: 'N' :: r => some (.real (0.0 / 0.0), r)
  | 'I' :: 'n' :: 'f' :: 'i' :: 'n' :: 'i' :: 't' :: 'y' :: r => some (.real infinity, r)
  | '-' :: 'I' :: 'n' :: 'f' :: 'i' :: 'n' :: 'i' :: 't' :: 'y' :: r => some (.real (-infinity), r)
  | '-' :: r => readNumber true r
  | r => readNumber false r

mutual

def readValue : Nat → List Char → Option (Json × List Char)
  | 0, _ => none
  | fuel + 1, cs => readOpened (readItems fuel) (readEntries fuel []) (cs.dropWhile isSpace)

def readItems : Nat → List Char → Option (Json × List Char)
  | 0, _ => none
  | fuel + 1, cs => do
    let (v, r) ← readValue fuel cs
    match r.dropWhile isSpace with
    | ',' :: r' =>
      let (more, r'') ← readItems fuel r'
      match more with
      | .array vs => some (.array (v :: vs), r'')
      | _ => none
    | ']' :: r' => some (.array [v], r')
    | _ => none

def readEntries : Nat → List (String × Json) → List Char → Option (Json × List Char)
  | 0, _, _ => none
  | fuel + 1, done, cs =>
    match cs.dropWhile isSpace with
    | '"' :: r => do
      let (key, r) ← readText (r.length + 1) [] r
      match r.dropWhile isSpace with
      | ':' :: r' =>
        let (v, r'') ← readValue fuel r'
        match r''.dropWhile isSpace with
        | ',' :: rest => readEntries fuel (putEntry key v done) rest
        | '\x7d' :: rest => some (.object (putEntry key v done), rest)
        | _ => none
      | _ => none
    | _ => none

end

def read (s : String) : Option Json :=
  match readValue (s.length + 1) s.toList with
  | some (v, rest) => if rest.all isSpace then some v else none
  | none => none

end DroidAudit.Json
