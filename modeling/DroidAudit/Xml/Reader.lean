import DroidAudit.Xml.DocumentType
import DroidAudit.Xml.Encoding

/-! Reading XML documents. -/
namespace DroidAudit.Xml

abbrev Scope := List (String × String)

def xmlSpace : String := "http://www.w3.org/XML/1998/namespace"

/-- The namespace of declarations of labels, for which no label may stand. -/
def declarationSpace : String := "http://www.w3.org/2000/xmlns/"

def outerScope : Scope := [("xml", xmlSpace)]

/-- An attribute as written: label, part and quoted text, with the texts from its name and from
its closing quote on. -/
structure RawAttribute where
  label : String
  part : String
  value : List Char
  place : List Char
  rest : List Char

/-- The text of a value up to its quote, and the rest from the quote on. No tag may open in it,
and references must be whole. -/
def rawValue (start : List Char) (quote : Char) : List Char → Except Fault (Taken (List Char))
  | [] => ending .unclosed start
  | c :: cs =>
    if c == quote then .ok ([], c :: cs)
    else if c == '<' then fault .badSign (c :: cs)
    else do
      if c == '&' then discard (reference start cs)
      let (value, rest) ← rawValue start quote cs
      .ok (c :: value, rest)

def quotedValue (start cs : List Char) : Except Fault (Taken (List Char)) :=
  match spaces cs with
  | '=' :: rest =>
    match spaces rest with
    | quote :: rest =>
      if isQuote quote then rawValue start quote rest else broken start (quote :: rest)
    | [] => broken start []
  | rest => broken start rest

/-- The attributes of a start tag, whether the element is empty, and the rest. Blanks divide the
attributes. -/
def rawAttributes (start : List Char) :
    Nat → List Char → Except Fault (Taken (List RawAttribute × Bool))
  | 0, _ => broken start []
  | fuel + 1, cs =>
    match spaces cs with
    | '>' :: rest => .ok (([], false), rest)
    | '/' :: '>' :: rest => .ok (([], true), rest)
    | '/' :: rest => broken start rest
    | place =>
      if !cs.head?.any isSpace then broken start cs
      else do
        let ((label, part), rest) ← labelledName start place
        let (value, rest) ← quotedValue start rest
        let ((more, empty), behind) ← rawAttributes start fuel (rest.drop 1)
        .ok ((⟨label, part, value, place, rest⟩ :: more, empty), behind)

/-- The label that an attribute declares, if it declares one; the empty label is the default. -/
def declaredLabel (label part : String) : Option String :=
  if label == "xmlns" then some part
  else if label.isEmpty && part == "xmlns" then some ""
  else none

def spaceOf (scope : Scope) (label : String) : Option String :=
  (scope.find? (·.1 == label)).map (·.2)

/-- Resolves an attribute name; without a label it is in no namespace. -/
def attributeName (scope : Scope) (label part : String) : Option Name :=
  if label.isEmpty then some (.plain part)
  else (spaceOf scope label).map fun space => ⟨label, part, space⟩

def elementName (scope : Scope) (label part : String) : Option Name :=
  if label.isEmpty then some ⟨"", part, (spaceOf scope "").getD ""⟩
  else (spaceOf scope label).map fun space => ⟨label, part, space⟩

/-- Why a label may not stand for a namespace; the empty label is the default. -/
def standProblem? (w : Way) (label space : String) : Option Problem :=
  if space.isEmpty && !label.isEmpty then some .unboundSpace
  else if label == "xmlns" then some .reservedDeclaring
  else if space.toList.contains w.separator then some .misplaced
  else if label == "xml" && space != xmlSpace then some .reservedXml
  else if label != "xml" && (space == xmlSpace || space == declarationSpace) then
    some .reservedSpace
  else none

/-- An attribute that has its value: label, part and value. -/
abbrev Given := String × String × String

def declaredBy (w : Way) (word : List Char) (given : Given) : Except Fault Scope :=
  match declaredLabel given.1 given.2.1 with
  | none => .ok []
  | some label =>
    match standProblem? w label given.2.2 with
    | some p => fault p word
    | none => .ok [(label, given.2.2)]

def writtenAs (label part : String) : String := if label.isEmpty then part else label ++ ":" ++ part

def cutName (written : String) : String × String :=
  match Text.splitAt ':' written.toList with
  | [label, part] => (String.ofList label, String.ofList part)
  | _ => ("", written)

/-- The attributes that the document type gives an element beside those written: their labels,
parts and values. -/
def defaultAttributes (d : DocumentType) (element : String) (written : List String) :
    List (String × String × String) :=
  d.rules.filterMap fun r =>
    if r.element != element || written.contains r.name then none
    else
      let (label, part) := cutName r.name
      r.value.map fun value => (label, part, value)

/-- The values of the attributes of an element, and the labels that they declare. No attribute may
stand there twice. `seen` holds the names of those in front. -/
def givenAttributes (w : Way) (d : DocumentType) (inside : List String) (word : List Char)
    (element : String) : List String → List RawAttribute → Except Fault (List Given × Scope)
  | _, [] => .ok ([], [])
  | seen, a :: rest => do
    let name := writtenAs a.label a.part
    if seen.contains name then fault .repeatedAttribute a.place
    else
      let free := ((d.rule? element name).map (·.free)).getD true
      let value ← attributeValue d.entities free ⟨word, some a.rest⟩ inside a.value
      let given := (a.label, a.part, value)
      let declared ← declaredBy w word given
      let (more, scope) ← givenAttributes w d inside word element (name :: seen) rest
      .ok (given :: more, declared ++ scope)

/-- The attributes with their names resolved, but for those that declare labels. No two names may
come out the same; `seen` holds those in front. -/
def namedAttributes (scope : Scope) (word : List Char) :
    List (String × String) → List Given → Except Fault (List Attribute)
  | _, [] => .ok []
  | seen, (label, part, value) :: rest =>
    if (declaredLabel label part).isSome then namedAttributes scope word seen rest
    else
      match attributeName scope label part with
      | none => fault .unboundLabel word
      | some name =>
        if seen.contains (name.space, name.part) then fault .repeatedAttribute word
        else do
          let more ← namedAttributes scope word ((name.space, name.part) :: seen) rest
          .ok (⟨name, value, .escaped⟩ :: more)

/-- The name, the attributes and the scope of an element, whose tag is at the front of `word`. -/
def startTag (w : Way) (d : DocumentType) (scope : Scope) (inside : List String)
    (word : List Char) (label part : String) (raw : List RawAttribute) :
    Except Fault (Name × List Attribute × Scope) := do
  let element := writtenAs label part
  let (given, declared) ← givenAttributes w d inside word element [] raw
  let defaults := defaultAttributes d element (raw.map fun a => writtenAs a.label a.part)
  let declaredToo ← defaults.mapM (declaredBy w word)
  let scope := declared ++ declaredToo.flatten ++ scope
  let attributes ← namedAttributes scope word [] (given ++ defaults)
  let written := given.countP fun (label, part, _) => (declaredLabel label part).isNone
  match elementName scope label part with
  | none => fault .unboundLabel word
  | some name => .ok (name, if w.addsDefaults then attributes else attributes.take written, scope)

inductive Item
  | text (cs : List Char)
  | element (e : Element)

def gather : List Item → List Char × List (Element × String)
  | [] => ([], [])
  | .text cs :: rest =>
    let (text, children) := gather rest
    (cs ++ text, children)
  | .element e :: rest =>
    let (text, children) := gather rest
    ([], (e, String.ofList (Text.ofChars text)) :: children)

def makeElement (name : Name) (attributes : List Attribute) (items : List Item) : Element :=
  let (text, children) := gather items
  .mk name attributes (some (String.ofList (Text.ofChars text))) children

def endTag (start cs : List Char) : Except Fault (Taken String) := do
  discard (simpleName start cs)
  let name := cs.takeWhile fun c => continuesName c || c == ':'
  match spaces (cs.drop name.length) with
  | '>' :: rest => .ok (String.ofList name, rest)
  | rest => broken start rest

/-- An element whose tag is at the front of `word`; `inner` reads what stands between its tags. -/
def element (w : Way) (d : DocumentType) (scope : Scope) (inside : List String)
    (inner : Scope → List Char → Except Fault (Taken (List Item))) (word : List Char) :
    Except Fault (Taken Element) := do
  let ((label, part), rest) ← labelledName word (word.drop 1)
  let ((raw, empty), rest) ← rawAttributes word (rest.length + 1) rest
  let (name, attributes, scope) ← startTag w d scope inside word label part raw
  if empty then .ok (makeElement name attributes [], rest)
  else
    match ← inner scope rest with
    | (items, '<' :: '/' :: cs) =>
      let (written, rest) ← endTag ('<' :: '/' :: cs) cs
      if written != writtenAs label part then fault .otherEndTag cs
      else .ok (makeElement name attributes items, rest)
    | _ => ending (if inside.isEmpty then .openElement else .unevenEntity) []

def plainSection (start cs : List Char) : Except Fault (Taken (List Char)) :=
  let opening := "CDATA[".toList
  match Text.after? opening cs with
  | some cs =>
    match upTo "]]>".toList cs with
    | some (text, rest) => .ok (text, rest)
    | none =>
      let closing := (cs.reverse.take 2).takeWhile (· == ']')
      ending .unclosedSection closing
  | none =>
    if cs.length < opening.length then ending .unclosed start
    else
      let same := ((cs.zip opening).takeWhile fun (a, b) => a == b).length
      fault .badSign (cs.drop same)

/-- Text up to the next tag or reference. It may not hold the closing of a section. -/
def plainText (cs : List Char) : Except Fault (Taken (List Char)) :=
  let text := cs.takeWhile fun c => c != '<' && c != '&'
  let rest := cs.drop text.length
  match behindFirst "]]>".toList text with
  | some behind => .error ⟨.badSign, behind.length + 1 + rest.length, false⟩
  | none => .ok (text, rest)

/-- What stands between tags, up to an end tag or the end of the text. `inside` holds the entities
that are being replaced. -/
def content (w : Way) (d : DocumentType) :
    Nat → Scope → List String → List Char → Except Fault (Taken (List Item))
  | 0, _, _, _ => ending .noElement []
  | fuel + 1, scope, inside, cs =>
    let following (item : List Item) (rest : List Char) : Except Fault (Taken (List Item)) := do
      let (items, rest) ← content w d fuel scope inside rest
      .ok (item ++ items, rest)
    match cs with
    | [] => .ok ([], [])
    | '<' :: '/' :: rest => .ok ([], '<' :: '/' :: rest)
    | '<' :: '!' :: '-' :: '-' :: rest => do following [] (← comment cs rest)
    | '<' :: '!' :: '-' :: rest => broken cs rest
    | '<' :: '!' :: '[' :: rest => do
      let (text, rest) ← plainSection cs rest
      following [.text text] rest
    | '<' :: '!' :: rest => broken cs rest
    | '<' :: '?' :: rest => do
      match ← instruction cs rest with
      | (none, rest) => following [] rest
      | (some _, _) => fault .lateDeclaration cs
    | '<' :: _ => do
      let (e, rest) ←
        element w d scope inside (fun inner cs => content w d fuel inner inside cs) cs
      following [.element e] rest
    | '&' :: rest => do
      let (r, rest) ← reference cs rest
      match r with
      | .char (some c) => following [.text [c]] rest
      | .char none => fault .badNumber cs
      | .entity name =>
        if inside.isEmpty && d.entities.breach.any (· == cs.length) then fault .tooMuchGrowth cs
        else
          match predefined name, d.entities.get? name with
          | some c, _ => following [.text [c]] rest
          | none, some (.text text) =>
            if inside.contains name then fault .entityInItself cs
            else
              match content w d fuel scope (name :: inside) text with
              | .ok (items, []) => following items rest
              | .ok (_, word) =>
                match endTag word (word.drop 2) with
                | .ok _ => fault .unevenEntity cs
                | .error f => .error (f.movedTo cs)
              | .error f => .error (f.movedTo cs)
          | none, some .unparsed => fault .unparsedEntity cs
          | none, some .outside =>
            if w.passesOutside then following [] rest else fault (.unreadEntity name) cs
          | none, none =>
            if !d.entities.incomplete then fault .undefinedEntity cs
            else if w.passesOutside then following [] rest
            else fault (.unreadEntity name) cs
    | cs => do
      let (text, rest) ← plainText cs
      following [.text text] rest

/-- Nothing but blanks, comments and instructions may stand behind the root. -/
def endsDocument (fuel : Nat) (cs : List Char) : Except Fault Unit := do
  let rest ← miscellany fuel cs
  match ← token rest with
  | (none, _) => .ok ()
  | (some t, after) => .error ⟨.behindRoot, rest.length, t.isOpen && after.isEmpty⟩

def rootOf (w : Way) (d : DocumentType) (fuel : Nat) (cs : List Char) : Except Fault Element := do
  match ← word cs with
  | (.tag, rest) =>
    let depth := d.entities.depth fuel
    let (root, rest) ←
      element w d outerScope [] (fun inner cs => content w d depth inner [] cs) rest
    endsDocument fuel rest
    .ok root
  | (t, rest) => misplaced cs t rest

def documentOf (w : Way) (standalone : Bool) (cs : List Char) : Except Fault Element := do
  let fuel := cs.length + 2
  let front ← miscellany fuel cs
  match ← word front with
  | (.opening "DOCTYPE", rest) =>
    let (d, rest) ← documentType w standalone (byteCount cs) rest
    let rest ← miscellany fuel rest
    rootOf w (d.measured rest) fuel rest
  | _ => rootOf w { standalone := standalone } fuel front

def read (w : Way) (bytes : ByteArray) : Except Error Element := do
  let source ← sourceOf bytes.toList
  let (front, rest) ← source.run (declaration source.chars)
  let root ← source.run (documentOf w front.standalone rest)
  match source.ending with
  | .whole => .ok root
  | _ => source.run (ending .noElement [])

end DroidAudit.Xml
