import DroidAudit.Text.Half
import DroidAudit.Text.Search
import DroidAudit.Xml.Basic
import DroidAudit.Xml.Fault
import DroidAudit.Xml.NameTable

/-! The small pieces of XML documents: names, references, quoted values, and what is passed over.
Each reader takes characters from the front and gives what it read with the rest; `start` is the
text from the word on that the piece belongs to. -/
namespace DroidAudit.Xml

def isLegal (c : Char) : Bool :=
  (0x20 ≤ c.toNat || c == '\t' || c == '\n' || c == '\r') && c.toNat != 0xFFFE && c.toNat != 0xFFFF

def isSpace (c : Char) : Bool := c == ' ' || c == '\t' || c == '\n' || c == '\r'

def spaces (cs : List Char) : List Char := cs.dropWhile isSpace

def isQuote (c : Char) : Bool := c == '"' || c == '\''

def asciiUpper (s : String) : String := s.map Char.toUpper

/-- What stands behind the next occurrence of `word`, and the text in front of it. -/
def upTo (word : List Char) : List Char → Option (List Char × List Char)
  | [] => none
  | c :: cs =>
    match Text.after? word (c :: cs) with
    | some rest => some ([], rest)
    | none => do
      let (front, rest) ← upTo word cs
      some (c :: front, rest)

/-- What stands behind the first occurrence of `word`. -/
def behindFirst (word : List Char) : List Char → Option (List Char)
  | [] => none
  | c :: cs =>
    match Text.after? word (c :: cs) with
    | some rest => some rest
    | none => behindFirst word cs

def opensName (c : Char) : Bool :=
  if c.toNat < 128 then c.isAlpha || c == '_' else Text.within letterTable c

def continuesName (c : Char) : Bool :=
  opensName c || c.isDigit || c == '-' || c == '.' ||
    (128 ≤ c.toNat && Text.within otherNameTable c)

def simpleName (start : List Char) : List Char → Except Fault (Taken String)
  | c :: cs =>
    if opensName c then
      .ok (String.ofList (c :: cs.takeWhile continuesName), cs.dropWhile continuesName)
    else broken start (c :: cs)
  | [] => broken start []

def labelledName (start cs : List Char) : Except Fault (Taken (String × String)) := do
  let (first, rest) ← simpleName start cs
  match rest with
  | ':' :: rest =>
    let (second, rest) ← simpleName start rest
    .ok ((first, second), rest)
  | _ => .ok (("", first), rest)

/-- Passes over a comment behind its opening; it may not hold two hyphens. -/
def comment (start cs : List Char) : Except Fault (List Char) :=
  match behindFirst "--".toList cs with
  | some ('>' :: rest) => .ok rest
  | some rest => broken start rest
  | none => ending .unclosed start

/-- Passes over an instruction behind its opening. If its target is the reserved word, it is a
declaration, whose settings are given. The word must be written in small letters then. -/
def instruction (start cs : List Char) : Except Fault (Taken (Option (List Char))) := do
  let (target, rest) ← simpleName start cs
  let declared (settings : List Char) : Option (List Char) :=
    if target == "xml" then some settings else none
  if asciiUpper target == "XML" && target != "xml" then broken start rest
  else
    match rest with
    | '?' :: '>' :: rest => .ok (declared [], rest)
    | '?' :: rest => broken start rest
    | c :: _ =>
      if isSpace c then
        match upTo "?>".toList rest with
        | some (settings, rest) => .ok (declared settings, rest)
        | none => ending .unclosed start
      else broken start rest
    | [] => broken start []

def digitIn (base : Nat) (c : Char) : Option Nat :=
  if c.isDigit then some (c.toNat - 48)
  else if base == 16 && 97 ≤ c.toNat && c.toNat ≤ 102 then some (c.toNat - 87)
  else if base == 16 && 65 ≤ c.toNat && c.toNat ≤ 70 then some (c.toNat - 55)
  else none

def numberIn (base : Nat) : Nat → List Char → Nat
  | n, [] => n
  | n, c :: cs => numberIn base (base * n + (digitIn base c).getD 0) cs

def charNumbered (n : Nat) : Option Char :=
  let c := Char.ofNat n
  if n != 0 && c.toNat == n && isLegal c then some c else none

inductive Reference
  | char (c : Option Char)
  | entity (name : String)

def numbered (start : List Char) (base : Nat) (cs : List Char) : Except Fault (Taken Reference) :=
  let digits := cs.takeWhile fun c => (digitIn base c).isSome
  if digits.isEmpty then broken start cs
  else
    match cs.drop digits.length with
    | ';' :: rest => .ok (.char (charNumbered (numberIn base 0 digits)), rest)
    | rest => broken start rest

def reference (start : List Char) : List Char → Except Fault (Taken Reference)
  | '#' :: 'x' :: cs => numbered start 16 cs
  | '#' :: cs => numbered start 10 cs
  | cs => do
    let (name, rest) ← simpleName start cs
    match rest with
    | ';' :: rest => .ok (.entity name, rest)
    | _ => broken start rest

inductive EntityBody
  | text (cs : List Char)
  /-- Text that is kept elsewhere. -/
  | outside
  /-- Something that is no text. -/
  | unparsed

/-- The declared entities. If the table is incomplete, others may be declared in a place that is
not read. A document may have a mention that makes it grow too much; it is given by the number of
characters from it on. -/
structure Entities where
  declared : List (String × EntityBody) := []
  incomplete : Bool := false
  breach : Option Nat := none

def predefined : String → Option Char
  | "lt" => some '<'
  | "gt" => some '>'
  | "amp" => some '&'
  | "apos" => some '\''
  | "quot" => some '"'
  | _ => none

def Entities.get? (es : Entities) (name : String) : Option EntityBody :=
  (es.declared.find? (·.1 == name)).map (·.2)

def Entities.size (es : Entities) : Nat :=
  es.declared.foldr (fun e size => match e.2 with
    | .text cs => cs.length + size
    | _ => size) 0

def Entities.depth (es : Entities) (length : Nat) : Nat :=
  (length + es.size + 2) * (es.declared.length + 1)

/-- Where the text of a value stands: the text from its word on, and what follows the value.
Nothing follows if it is the text of an entity. -/
structure Site where
  word : List Char
  rest : Option (List Char)

/-- A problem in a value. That of an entity is one of the whole word. -/
def Site.fault {α : Type} (s : Site) (p : Problem) (left : Nat) : Except Fault α :=
  .error ⟨p, match s.rest with
    | some rest => left + rest.length
    | none => s.word.length, false⟩

/-- Whether a mention in a value makes the document grow too much; `here` is what stands from it
on. -/
def Site.isBreach (s : Site) (es : Entities) (here : List Char) : Bool :=
  match es.breach, s.rest with
  | some left, some rest => left == here.length + rest.length
  | _, _ => false

/-- A reference in a value, behind its ampersand, which stands at `here`. -/
def Site.reference (s : Site) (here cs : List Char) : Except Fault (Taken Reference) :=
  match Xml.reference [] cs with
  | .ok r => .ok r
  | .error f => s.fault .badSign (if f.atEnd then here.length else f.left)

/-- The value of an attribute: blanks become spaces, references are replaced. `inside` holds the
entities that are being replaced; none may contain itself. -/
def valueChars (es : Entities) :
    Nat → Site → List String → List Char → Except Fault (List Char)
  | 0, site, _, _ => fault .entityInItself site.word
  | _ + 1, _, _, [] => .ok []
  | fuel + 1, site, inside, c :: cs =>
    if c == '<' then site.fault .badSign (cs.length + 1)
    else if c == '&' then do
      let (r, rest) ← site.reference (c :: cs) cs
      let front ←
        match r with
        | .char (some c) => .ok [c]
        | .char none => site.fault .badNumber (cs.length + 1)
        | .entity name =>
          if site.isBreach es (c :: cs) then fault .tooMuchGrowth site.word
          else
            match predefined name, es.get? name with
            | some c, _ => .ok [c]
            | none, some (.text text) =>
              if inside.contains name then fault .entityInItself site.word
              else valueChars es fuel ⟨site.word, none⟩ (name :: inside) text
            | none, some .unparsed => site.fault .unparsedEntity (cs.length + 1)
            | none, some .outside => site.fault .outsideEntity (cs.length + 1)
            | none, none => if es.incomplete then .ok [] else fault .undefinedEntity site.word
      let more ← valueChars es fuel site inside rest
      .ok (front ++ more)
    else do
      let more ← valueChars es fuel site inside cs
      .ok ((if isSpace c then ' ' else c) :: more)

def singleSpaces (cs : List Char) : List Char :=
  List.intercalate [ ' '] ((Text.splitAt ' ' cs).filter (!·.isEmpty))

/-- The value of an attribute from its quoted text. Spaces of a value that is no free text do not
count. -/
def attributeValue (es : Entities) (free : Bool) (site : Site) (inside : List String)
    (cs : List Char) : Except Fault String := do
  let value ← valueChars es (es.depth cs.length) site inside cs
  .ok (String.ofList (Text.ofChars (if free then value else singleSpaces value)))

/-- The text of a declared entity: numbered characters are replaced, names are kept. Entities of
declarations may not be mentioned. -/
def entityText (site : Site) : Nat → List Char → Except Fault (List Char)
  | 0, cs => site.fault .badSign cs.length
  | _ + 1, [] => .ok []
  | _ + 1, '%' :: cs =>
    match simpleName [] cs with
    | .ok (_, ';' :: _) => site.fault .entityOfDeclarations (cs.length + 1)
    | .ok (_, rest) => site.fault .badSign (if rest.isEmpty then cs.length + 1 else rest.length)
    | .error _ => site.fault .badSign (if cs.isEmpty then 1 else cs.length)
  | fuel + 1, '&' :: cs => do
    let (r, rest) ← site.reference ('&' :: cs) cs
    match r with
    | .char none => site.fault .badNumber (cs.length + 1)
    | .char (some c) => .ok (c :: (← entityText site fuel rest))
    | .entity name => .ok ('&' :: name.toList ++ ';' :: (← entityText site fuel rest))
  | fuel + 1, c :: cs => do .ok (c :: (← entityText site fuel cs))

end DroidAudit.Xml
