import DroidAudit.Json.Writer

/-! Values that findings carry: plain data, severities and kinds of app component. -/
namespace DroidAudit

inductive Severity
  | info | warning | error | vulnerability
  deriving Repr, DecidableEq, Inhabited

namespace Severity

def name : Severity → String
  | .info => "INFO"
  | .warning => "WARNING"
  | .error => "ERROR"
  | .vulnerability => "VULNERABILITY"

def rank : Severity → Nat
  | .info => 0
  | .warning => 1
  | .error => 2
  | .vulnerability => 3

def all : List Severity := [.info, .warning, .error, .vulnerability]

end Severity

/-- A kind of app component, as far as an exploit tells them apart. -/
inductive Component
  | receiver | provider | activity | broadcast | service
  deriving Repr, DecidableEq, Inhabited

namespace Component

def name : Component → String
  | .receiver => "Receiver"
  | .provider => "Provider"
  | .activity => "Activity"
  | .broadcast => "Broadcast"
  | .service => "Service"

def word : Component → String
  | .receiver => "receiver"
  | .provider => "provider"
  | .activity => "activity"
  | .broadcast => "broadcast"
  | .service => "service"

def listName : Component → String
  | .receiver => "exportedReceivers"
  | .provider => "exportedContentProviders"
  | .activity => "exportedActivities"
  | .broadcast => "exportedBroadcasts"
  | .service => "exportedServices"

def all : List Component := [.receiver, .provider, .activity, .broadcast, .service]

end Component

inductive Value
  | null
  | bool (b : Bool)
  | int (n : Int)
  | real (x : Float)
  | text (s : String)
  | list (items : List Value)
  | tuple (items : List Value)
  | table (entries : List (String × Value))
  | severity (s : Severity)
  | component (c : Component)
  deriving Inhabited

namespace Value

/-- Nothing, zero and whatever is empty counts as absent. -/
def isPresent : Value → Bool
  | .null => false
  | .bool b => b
  | .int n => n != 0
  | .real x => x != 0.0
  | .text s => !s.isEmpty
  | .list items => !items.isEmpty
  | .tuple items => !items.isEmpty
  | .table entries => !entries.isEmpty
  | .severity _ => true
  | .component _ => true

mutual

def quoted : Value → String
  | .null => "None"
  | .bool b => if b then "True" else "False"
  | .int n => toString n
  | .real x => Decimal.text x
  | .text s => Text.quoted s
  | .list items => "[" ++ quotedItems items ++ "]"
  | .tuple [item] => "(" ++ quoted item ++ ",)"
  | .tuple items => "(" ++ quotedItems items ++ ")"
  | .table entries => "\x7b" ++ quotedEntries entries ++ "\x7d"
  | .severity s => "<Severity." ++ s.name ++ ": " ++ toString s.rank ++ ">"
  | .component c => "<enum '" ++ c.name ++ "'>"

def quotedItems : List Value → String
  | [] => ""
  | [v] => quoted v
  | v :: vs => quoted v ++ ", " ++ quotedItems vs

def quotedEntries : List (String × Value) → String
  | [] => ""
  | [(k, v)] => Text.quoted k ++ ": " ++ quoted v
  | (k, v) :: es => Text.quoted k ++ ": " ++ quoted v ++ ", " ++ quotedEntries es

end

def display : Value → String
  | .text s => s
  | .severity s => "Severity." ++ s.name
  | v => quoted v

mutual

def isHashable : Value → Bool
  | .list _ => false
  | .table _ => false
  | .tuple items => allHashable items
  | _ => true

def allHashable : List Value → Bool
  | [] => true
  | v :: vs => isHashable v && allHashable vs

end

def element? : Value → Nat → Option Value
  | .list items, i => items[i]?
  | .tuple items, i => items[i]?
  | .text s, i => (Text.points s.toList)[i]?.map fun n => .text (String.ofList (Text.ofPoint n))
  | _, _ => none

def get? : Value → String → Option Value
  | .table entries, key => (entries.find? fun e => e.1 == key).map (·.2)
  | _, _ => none

/-- The number a value counts as in comparisons: truth values are one and zero. -/
def asInteger? : Value → Option Int
  | .bool b => some (if b then 1 else 0)
  | .int n => some n
  | _ => none

mutual

/-- Equality of data: numbers are compared by value, truth values as one and zero; a list never
equals a tuple, and tables are equal whatever the order of their entries. -/
def same : Value → Value → Bool
  | .null, .null => true
  | .real x, .real y => x == y
  | .real x, v => (asInteger? v).any (Decimal.isInteger x)
  | .text s, .text t => s == t
  | .list xs, .list ys => allSame xs ys
  | .tuple xs, .tuple ys => allSame xs ys
  | .table xs, .table ys => xs.length == ys.length && allEntries xs ys
  | .severity s, .severity t => s == t
  | .component c, .component d => c == d
  | v, .real y => (asInteger? v).any (Decimal.isInteger y)
  | v, w =>
    match asInteger? v, asInteger? w with
    | some m, some n => m == n
    | _, _ => false

def allSame : List Value → List Value → Bool
  | [], [] => true
  | x :: xs, y :: ys => same x y && allSame xs ys
  | _, _ => false

def allEntries : List (String × Value) → List (String × Value) → Bool
  | [], _ => true
  | (k, v) :: es, others =>
    (match others.find? fun e => e.1 == k with
      | some e => same v e.2
      | none => false) && allEntries es others

end

/-- Drops the entries whose value equals the one stored under `key`. -/
def dropLike (entries : List (String × Value)) (key : String) : List (String × Value) :=
  let value := ((entries.find? fun e => e.1 == key).map (·.2)).getD .null
  entries.filter fun e => !same e.2 value

mutual

/-- Plain data; severities and component kinds have no such form. -/
def toJson? : Value → Option Json
  | .null => some .null
  | .bool b => some (.bool b)
  | .int n => some (.int n)
  | .real x => some (.real x)
  | .text s => some (.text s)
  | .list items => (itemsToJson? items).map .array
  | .tuple items => (itemsToJson? items).map .array
  | .table entries => (entriesToJson? entries).map .object
  | .severity _ => none
  | .component _ => none

def itemsToJson? : List Value → Option (List Json)
  | [] => some []
  | v :: vs => do
    let j ← toJson? v
    let js ← itemsToJson? vs
    some (j :: js)

def entriesToJson? : List (String × Value) → Option (List (String × Json))
  | [] => some []
  | (k, v) :: es => do
    let j ← toJson? v
    let js ← entriesToJson? es
    some ((k, j) :: js)

end

end Value
end DroidAudit
