import DroidAudit.Failure

/-! Files of properties: a key, an equals sign or a colon, and a value. Keys are read in small
letters; a line that is indented deeper than the key's line continues the value; lines that open
with a number sign or a semicolon are comments. A line in brackets opens another section. A percent
sign would open a reference to another entry. So that it stands for itself, every one is doubled
before reading, and two are taken for one in the values. -/
namespace DroidAudit.Properties

/-- The section that the file starts in, and the one whose entries belong to every section. -/
def mainSection : String := "dummy_header"

def commonSection : String := "DEFAULT"

structure Entry where
  owner : String
  key : String
  lines : List String

structure Reading where
  owner : String := mainSection
  opened : List String := [mainSection]
  entries : List Entry := []
  key : Option String := none
  indent : Nat := 0
  faulty : Bool := false

def entryText (key value : Value) : String := key.display ++ "=" ++ value.display ++ "\n"

def text (properties : List (Value × Value)) : String :=
  String.join (properties.map fun (key, value) => entryText key value)

def doublePercents (cs : List Char) : List Char := Text.replaceChar '%' ['%', '%'] cs

def singlePercents : List Char → List Char
  | [] => []
  | '%' :: '%' :: cs => '%' :: singlePercents cs
  | c :: cs => c :: singlePercents cs

def isComment (line : List Char) : Bool :=
  match Text.trim line with
  | '#' :: _ => true
  | ';' :: _ => true
  | _ => false

def isDelimiter (c : Char) : Bool := c == '=' || c == ':'

def splitEntry? (line : List Char) : Option (List Char × List Char) :=
  match line.dropWhile (!isDelimiter ·) with
  | [] => none
  | _ :: value => some (Text.trimRight (line.takeWhile (!isDelimiter ·)), Text.trim value)

def sectionName? (line : List Char) : Option String :=
  match line with
  | '[' :: rest =>
    match (rest.reverse.dropWhile (· != ']')).drop 1 with
    | [] => none
    | name => some (String.ofList name.reverse)
  | _ => none

def keyOf (cs : List Char) : String := Text.lower (String.ofList cs)

def addLine (r : Reading) (line : String) : Reading :=
  { r with entries := r.entries.map fun e =>
      if e.owner == r.owner && some e.key == r.key then { e with lines := e.lines ++ [line] }
      else e }

/-- Whether there is a key that further lines can belong to. -/
def Reading.continues (r : Reading) : Bool := r.key.any (!·.isEmpty)

def openSection (r : Reading) (name : String) : Except PropertiesFault Reading :=
  if name != commonSection && r.opened.contains name then .error .repeatedSection
  else .ok { r with owner := name, opened := name :: r.opened, key := none }

def addEntry (r : Reading) (key value : List Char) : Except PropertiesFault Reading :=
  let name := keyOf key
  if r.entries.any fun e => e.owner == r.owner && e.key == name then .error .repeatedKey
  else
    .ok { r with
      key := some name
      faulty := r.faulty || key.isEmpty
      entries := r.entries ++ [⟨r.owner, name, [String.ofList value]⟩] }

def readLine (r : Reading) (line : List Char) : Except PropertiesFault Reading :=
  let value := Text.trim line
  if isComment line then .ok r
  else if value.isEmpty then .ok (if r.continues then addLine r "" else r)
  else
    let indent := (line.takeWhile Text.isBlank).length
    if r.continues && r.indent < indent then .ok (addLine r (String.ofList value))
    else
      let r := { r with indent := indent }
      match sectionName? value with
      | some name => openSection r name
      | none =>
        match splitEntry? value with
        | some (key, value) => addEntry r key value
        | none => .ok { r with faulty := true }

def Entry.value (e : Entry) : String :=
  String.ofList (singlePercents (Text.trimRight (Text.join "\n" e.lines).toList))

/-- Reads the entries of the first section; those common to all sections come in where it has
none of the same key. -/
def read (source : String) : Except PropertiesFault (List (String × String)) := do
  let r ← (Text.lines (doublePercents source.toList)).foldlM readLine {}
  if r.faulty then throw .unreadableLine
  let own := r.entries.filter (·.owner == mainSection)
  let shared := r.entries.filter fun e =>
    e.owner == commonSection && !own.any (·.key == e.key)
  return (shared ++ own).map fun e => (e.key, e.value)

end DroidAudit.Properties
