import DroidAudit.Text.Encoding
import DroidAudit.Xml.Markup

/-! The characters of an XML document, found from its bytes. The first bytes tell whether units
have eight or sixteen bits; a declaration at the front may name an encoding. -/
namespace DroidAudit.Xml

inductive Error
  | malformed (c : Complaint)
  | unknownEncoding (name : String)
  /-- An encoding of something else than text. -/
  | noTextEncoding (name : String)
  /-- An encoding in which a character can take several bytes. -/
  | wideEncoding
  /-- An encoding for bytes below 128 only. -/
  | asciiEncoding
  /-- An encoding that no table can be made of. -/
  | unusableEncoding (name reason : String)
  /-- An element that is declared twice. -/
  | repeatedElement
  deriving Repr, DecidableEq

def Error.message : Error → String
  | malformed c => c.message
  | unknownEncoding name => "unknown encoding: " ++ name
  | noTextEncoding name =>
    "'" ++ name ++ "' is not a text encoding; use codecs.decode() to handle arbitrary codecs"
  | wideEncoding => "multi-byte encodings are not supported"
  | asciiEncoding =>
    "'ascii' codec can't decode byte 0x80 in position 82: ordinal not in range(128)"
  | unusableEncoding name reason =>
    "decoding with '" ++ name ++ "' codec failed (UnicodeError: " ++ reason ++ ")"
  | repeatedElement => ""

inductive Ending
  | whole
  /-- With something that is no character of a document. -/
  | spoilt
  /-- Inside of a character. -/
  | cut
  /-- Inside of a unit of sixteen bits. -/
  | halfUnit
  deriving Repr, DecidableEq

/-- The characters of a document as far as they can be read, with line ends unified. A mark may
stand in front of them. -/
structure Source where
  chars : List Char
  ending : Ending
  /-- Whether the last one is a carriage return, which could be the front of a line end. -/
  endsInReturn : Bool := false
  marked : Bool := false

namespace Source

def ofChars (cs : List Char) (e : Ending) : Source :=
  let legal := cs.takeWhile isLegal
  { chars := Text.unifyNewlines legal
    ending := if legal.length == cs.length then e else .spoilt
    endsInReturn := cs.getLast? == some '\r' }

/-- Whether the problem is that text inside of an element goes on up to the end. -/
def isOpenText (p : Problem) : Bool := p = .openElement || p = .unclosedSection

/-- What a fault means for the whole document. At its end it may come from what spoils the text
there, and a carriage return there is no text yet. -/
def error (s : Source) (f : Fault) : Error :=
  let mark := if s.marked then [ '\ufeff'] else []
  let complaint (p : Problem) (left : Nat) : Error :=
    .malformed (.behind (mark ++ s.chars.take (s.chars.length - left)) p)
  match f.atEnd, s.ending with
  | true, .spoilt => complaint .badSign 0
  | true, .cut => complaint .cutCharacter f.left
  | true, e =>
    if s.endsInReturn && isOpenText f.problem && f.left == 0 then complaint f.problem 1
    else if e = .halfUnit && (f.problem = .noElement || f.problem = .openElement) then
      complaint .unclosed f.left
    else complaint f.problem f.left
  | false, _ =>
    if f.problem = .repeatedElement then .repeatedElement else complaint f.problem f.left

def run {α : Type} (s : Source) (work : Except Fault α) : Except Error α := work.mapError s.error

end Source

/-- What a declaration at the front of a document says. The encoding comes with the text from its
name on. -/
structure Declaration where
  encoding : Option (String × List Char) := none
  standalone : Bool := false

structure Setting where
  name : String
  value : String
  atName : List Char
  atValue : List Char

/-- The next setting of a declaration, if there is one more. Blanks stand in front of it. -/
def setting (cs : List Char) : Except Fault (Taken (Option Setting)) := do
  let bad (place : List Char) : Except Fault (Taken (Option Setting)) := fault .badDeclaration place
  let atName := spaces cs
  let name := atName.takeWhile fun c => c != '=' && !isSpace c && c.toNat < 128
  if atName.isEmpty then .ok (none, [])
  else if !cs.head?.any isSpace then bad cs
  else
    match spaces (atName.drop name.length) with
    | '=' :: rest =>
      match name, spaces rest with
      | [], _ => bad atName
      | _, [] => bad []
      | _, quote :: atValue =>
        let value := atValue.takeWhile fun c => c.isAlphanum || c == '.' || c == '-' || c == '_'
        match isQuote quote, atValue.drop value.length with
        | false, _ => bad (quote :: atValue)
        | true, [] => bad []
        | true, closing :: rest =>
          if closing == quote then
            .ok (some ⟨String.ofList name, String.ofList value, atName, atValue⟩, rest)
          else bad (closing :: rest)
    | rest => bad rest

def standaloneSetting (s : Setting) (rest : List Char) : Except Fault Bool :=
  if s.name != "standalone" then fault .badDeclaration s.atName
  else if s.value != "yes" && s.value != "no" then fault .badDeclaration s.atValue
  else if !(spaces rest).isEmpty then fault .badDeclaration (spaces rest)
  else .ok (s.value == "yes")

/-- The settings of a declaration: a version, then at most an encoding, then at most whether the
document stands alone. -/
def settings (cs : List Char) : Except Fault Declaration := do
  match ← setting cs with
  | (none, _) => fault .badDeclaration cs
  | (some version, rest) =>
    if version.name != "version" then fault .badDeclaration version.atName
    else
      match ← setting rest with
      | (none, _) => .ok {}
      | (some second, rest) =>
        if second.name != "encoding" then .ok ⟨none, ← standaloneSetting second rest⟩
        else if !second.value.toList.head?.any Char.isAlpha then
          fault .badDeclaration second.atValue
        else
          let encoding := some (second.value, second.atValue)
          match ← setting rest with
          | (none, _) => .ok ⟨encoding, false⟩
          | (some last, rest) => .ok ⟨encoding, ← standaloneSetting last rest⟩

/-- The declaration that stands at the very front, or one that says nothing, and the rest. -/
def declaration (cs : List Char) : Except Fault (Taken Declaration) := do
  match Text.after? "<?xml".toList cs with
  | none => .ok ({}, cs)
  | some _ =>
    match ← instruction cs (cs.drop 2) with
    | (none, _) => .ok ({}, cs)
    | (some inner, rest) =>
      let behind := "?>".toList ++ rest
      let d ← (settings inner).mapError (·.inFrontOf behind)
      .ok ({ d with encoding := d.encoding.map fun (name, place) => (name, place ++ behind) }, rest)

inductive KnownEncoding
  | utf8 | latin1 | ascii | utf16 | utf16BigEndian | utf16LittleEndian
  deriving Repr, DecidableEq

def KnownEncoding.ofName? (name : String) : Option KnownEncoding :=
  match asciiUpper name with
  | "UTF-8" => some .utf8
  | "ISO-8859-1" => some .latin1
  | "US-ASCII" => some .ascii
  | "UTF-16" => some .utf16
  | "UTF-16BE" => some .utf16BigEndian
  | "UTF-16LE" => some .utf16LittleEndian
  | _ => none

def isMarkup (c : Char) : Bool :=
  isSpace c || (0x20 ≤ c.toNat && c.toNat < 0x7f && !"$@\\^`~\x7b\x7d".toList.contains c)

/-- Whether all that markup depends on stands at its usual place and nowhere else. -/
def keepsMarkup (p : Text.CodePage) : Bool :=
  (p.table.toList.zipIdx).all fun (c, i) =>
    c == Char.ofNat i || !(isMarkup c || (i < 128 && isMarkup (Char.ofNat i)))

def tableOf (name : String) : Except Error (Option Text.CodePage) :=
  match Text.Encoding.find? name with
  | none =>
    .error (if Text.Encoding.isOfBytes name then .noTextEncoding name else .unknownEncoding name)
  | some e =>
    match e.table with
    | .page p => .ok (if keepsMarkup p then some p else none)
    | .several => .error .wideEncoding
    | .asciiOnly => .error .asciiEncoding
    | .refused reason => .error (.unusableEncoding name reason)

def sourceBy (head : List UInt8 → Text.Head Unit) (bytes : List UInt8) : Source :=
  match Text.charsUntil head [] 0 bytes with
  | (cs, none) => .ofChars cs .whole
  | (cs, some lacks) => .ofChars cs (if lacks then .cut else .spoilt)

def tabledSource (p : Text.CodePage) (bytes : List UInt8) : Source :=
  let table := p.table
  sourceBy (fun bytes => .one (bytes.head?.bind (Text.CodePage.charIn? table)) 1) bytes

def sizeFrom (b : UInt8) : Nat :=
  if 0xF5 ≤ b || b < 0xC0 then 1
  else if b < 0xE0 then 2
  else if b < 0xF0 then 3
  else 4

/-- Characters in the usual encoding. At the end bytes count as lacking whatever is there. -/
def utf8Source (bytes : List UInt8) : Source :=
  match Text.utf8FaultFrom 0 0 bytes with
  | none => .ofChars (Text.utf8Chars bytes) .whole
  | some f =>
    .ofChars (Text.utf8Chars (bytes.take f.start))
      (if bytes.length < f.start + sizeFrom f.byte then .cut else .spoilt)

def eightBitSource (marked : Bool) (bytes : List UInt8) : Except Error Source := do
  let utf8 := { utf8Source bytes with marked := marked }
  let (front, _) ← utf8.run (declaration utf8.chars)
  let tabled (p : Text.CodePage) : Except Error Source :=
    .ok { tabledSource p bytes with marked := marked }
  match front.encoding with
  | none => .ok utf8
  | some (name, place) =>
    match KnownEncoding.ofName? name with
    | some .utf8 => .ok utf8
    | some .latin1 => tabled .latin1
    | some .ascii => tabled .ascii
    | some _ => utf8.run (fault .otherEncoding place)
    | none =>
      match ← tableOf name with
      | some p => tabled p
      | none => utf8.run (fault .unfitEncoding place)

/-- A unit of sixteen bits is a character, or two of them are. Of the second one only the lower
bits count. -/
def unitHead (order : Text.ByteOrder) : List UInt8 → Text.Head Unit
  | a :: b :: rest =>
    let unit := Text.unit16 order a b
    if Text.isLow unit then .fault
    else if Text.isHigh unit then
      match rest with
      | c :: d :: _ =>
        .chars [Char.ofNat (Text.pairPoint unit (0xDC00 + Text.unit16 order c d % 0x400))] 4 ()
      | _ => .cutOff
    else .chars [Char.ofNat unit] 2 ()
  | _ => .cutOff

/-- Characters of a document in units of sixteen bits. A declaration must name that encoding. -/
def sixteenBitSource (marked : Bool) (order : Text.ByteOrder) (bytes : List UInt8) :
    Except Error Source := do
  let units := sourceBy (unitHead order) (bytes.take (bytes.length / 2 * 2))
  let ending := if units.ending = .whole && bytes.length % 2 = 1 then .halfUnit else units.ending
  let source := { units with ending := ending, marked := marked }
  let (front, rest) ← source.run (declaration source.chars)
  match front.encoding with
  | none => .ok source
  | some (name, place) =>
    let other : Except Error Source := source.run (fault .otherEncoding place)
    match KnownEncoding.ofName? name with
    | some .utf16 => .ok source
    | some .utf16BigEndian => if order = .bigEndian then .ok source else other
    | some .utf16LittleEndian => if order = .bigEndian then other else .ok source
    | some _ => other
    | none =>
      match ← tableOf name with
      | some _ => source.run (fault .badSign rest)
      | none => source.run (fault .unfitEncoding place)

def sourceOf (bytes : List UInt8) : Except Error Source :=
  match bytes with
  | 0xFE :: 0xFF :: rest => sixteenBitSource true .bigEndian rest
  | 0xFF :: 0xFE :: rest => sixteenBitSource true .littleEndian rest
  | 0xEF :: 0xBB :: 0xBF :: rest => eightBitSource true rest
  | 0x00 :: rest => sixteenBitSource false .bigEndian (0x00 :: rest)
  | b :: 0x00 :: rest => sixteenBitSource false .littleEndian (b :: 0x00 :: rest)
  | bytes => eightBitSource false bytes

end DroidAudit.Xml
