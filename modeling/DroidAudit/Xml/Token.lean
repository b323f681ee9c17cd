import DroidAudit.Xml.Markup

/-! The words of declarations, and of all that stands around the root of a document. -/
namespace DroidAudit.Xml

inductive Token
  | name (s : String)
  | labelled (s : String)
  /-- Characters of names that are no name. -/
  | nameToken
  /-- A name and a sign for how often it occurs. -/
  | counted
  | pound (s : String)
  /-- Text in quotes. -/
  | literal (cs : List Char)
  | percent
  /-- A mention of an entity of declarations. -/
  | mention
  | sign (c : Char)
  /-- A closing parenthesis and a sign for how often the group occurs. -/
  | countedGroup (c : Char)
  | comment
  | instruction
  /-- What may stand at the front of a document only. -/
  | declaration
  /-- The opening of a declaration with a keyword. -/
  | opening (keyword : String)
  /-- One of the marks around conditional sections. -/
  | sectionMark
  /-- The start of an element; nothing of it is taken. -/
  | tag
  deriving Repr

namespace Token

/-- Whether more text could make it another word. -/
def isOpen : Token → Bool
  | name _ | labelled _ | nameToken | pound _ | literal _ => true
  | sign c => c == ')' || c == ']'
  | _ => false

end Token

def isCounter (c : Char) : Bool := c == '?' || c == '*' || c == '+'

/-- Whether a character may follow. The text may end, too. -/
def mayFollow (test : Char → Bool) (cs : List Char) : Bool := cs.head?.all test

def nameWord (start : List Char) : Except Fault (Taken Token) :=
  let isPart (c : Char) : Bool := continuesName c || c == ':'
  let run := start.takeWhile isPart
  let rest := start.drop run.length
  let isName := run.head?.any opensName
  let word : Token :=
    match Text.splitAt ':' run with
    | [_] => if isName then .name (String.ofList run) else .nameToken
    | [_, part] =>
      if isName && !part.isEmpty then .labelled (String.ofList run) else .nameToken
    | _ => .nameToken
  if run.isEmpty then broken start start
  else
    match rest with
    | [] =>
      if isName && run.getLast? == some ':' && run.count ':' == 1 then ending .unclosed start
      else .ok (word, [])
    | c :: more =>
      if isSpace c || ['>', ')', ',', '|', '[', '%'].contains c then .ok (word, rest)
      else if isCounter c then
        match word with
        | .nameToken => broken start rest
        | _ => .ok (.counted, more)
      else broken start rest

def isKeywordPart (c : Char) : Bool := c.isAlpha || c == '_'

/-- A word behind an opening angle bracket and an exclamation mark. -/
def declarationWord (start cs : List Char) : Except Fault (Taken Token) :=
  match cs with
  | '-' :: '-' :: rest => do .ok (.comment, ← comment start rest)
  | '-' :: rest => broken start rest
  | '[' :: rest => .ok (.sectionMark, rest)
  | cs =>
    let keyword := cs.takeWhile isKeywordPart
    let rest := cs.drop keyword.length
    let opened : Except Fault (Taken Token) := .ok (.opening (String.ofList keyword), rest)
    if keyword.isEmpty then broken start cs
    else
      match rest with
      | '%' :: c :: _ => if isSpace c || c == '%' then fault .badSign rest else opened
      | '%' :: [] => ending .unclosed start
      | c :: _ => if isSpace c then opened else broken start rest
      | [] => broken start []

def bracketWord (start cs : List Char) : Except Fault (Taken Token) :=
  match cs with
  | '!' :: rest => declarationWord start rest
  | '?' :: rest => do
    let (declared, rest) ← instruction start rest
    .ok (if declared.isSome then .declaration else .instruction, rest)
  | c :: _ => if opensName c || 128 ≤ c.toNat then .ok (.tag, start) else broken start cs
  | [] => broken start []

def percentWord (start cs : List Char) : Except Fault (Taken Token) :=
  if cs.head?.any fun c => isSpace c || c == '%' then .ok (.percent, cs)
  else do
    let (_, rest) ← simpleName start cs
    match rest with
    | ';' :: rest => .ok (.mention, rest)
    | _ => broken start rest

def literalWord (start cs : List Char) (quote : Char) : Except Fault (Taken Token) :=
  match upTo [quote] cs with
  | none => ending .unclosed start
  | some (text, rest) =>
    if mayFollow (fun c => isSpace c || ['>', '%', '['].contains c) rest then
      .ok (.literal text, rest)
    else broken start rest

/-- The word at the front of a text that is not empty and has no blanks at the front. -/
def wordAt (start : List Char) (c : Char) (cs : List Char) : Except Fault (Taken Token) :=
  if isQuote c then literalWord start cs c
  else if ['(', ',', '[', '|', '>'].contains c then .ok (.sign c, cs)
  else
    match c, cs with
    | '<', cs => bracketWord start cs
    | ']', ']' :: [] => ending .unclosed start
    | ']', ']' :: '>' :: rest => .ok (.sectionMark, rest)
    | ']', cs => .ok (.sign ']', cs)
    | ')', d :: rest =>
      if isCounter d then .ok (.countedGroup d, rest)
      else if isSpace d || ['>', ',', '|', ')'].contains d then .ok (.sign ')', d :: rest)
      else broken start (d :: rest)
    | ')', [] => .ok (.sign ')', [])
    | '%', cs => percentWord start cs
    | '#', cs => do
      let (word, rest) ← simpleName start cs
      if mayFollow (fun c => isSpace c || [')', '>', '%', '|'].contains c) rest then
        .ok (.pound word, rest)
      else broken start rest
    | _, _ => nameWord start

def token (cs : List Char) : Except Fault (Taken (Option Token)) :=
  match spaces cs with
  | [] => .ok (none, [])
  | c :: rest => do
    let (t, rest) ← wordAt (c :: rest) c rest
    .ok (some t, rest)

/-- The next word; there must be one. -/
def word (cs : List Char) : Except Fault (Taken Token) := do
  match ← token cs with
  | (some t, rest) => .ok (t, rest)
  | (none, _) => ending .noElement []

/-- The word at the front may not stand there; `rest` follows it. -/
def misplaced {α : Type} (cs : List Char) (t : Token) (rest : List Char) : Except Fault α :=
  let p : Problem :=
    match t with
    | .mention => .entityOfDeclarations
    | .declaration => .lateDeclaration
    | _ => .misplaced
  .error ⟨p, (spaces cs).length, t.isOpen && rest.isEmpty⟩

def take {α : Type} (pick : Token → Option α) (cs : List Char) : Except Fault (Taken α) := do
  let (t, rest) ← word cs
  match pick t with
  | some a => .ok (a, rest)
  | none => misplaced cs t rest

def signed (c : Char) (cs : List Char) : Except Fault (List Char) := do
  let (_, rest) ← take (fun | .sign d => if d == c then some () else none | _ => none) cs
  .ok rest

def literal : List Char → Except Fault (Taken (List Char)) :=
  take fun
    | .literal text => some text
    | _ => none

def simple : List Char → Except Fault (Taken String) :=
  take fun
    | .name s => some s
    | _ => none

def anyName : List Char → Except Fault (Taken String) :=
  take fun
    | .name s | .labelled s => some s
    | _ => none

def miscellany : Nat → List Char → Except Fault (List Char)
  | 0, cs => .ok cs
  | fuel + 1, cs => do
    match ← token cs with
    | (some .comment, rest) | (some .instruction, rest) => miscellany fuel rest
    | _ => .ok (spaces cs)

end DroidAudit.Xml
