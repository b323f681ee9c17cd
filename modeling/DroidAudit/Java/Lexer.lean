import DroidAudit.Java.Escape
import DroidAudit.Java.Token

/-! From Java source text to words. -/
namespace DroidAudit.Java

/-- Where the reader stands: what is left, its place in the text, the current line, how many code
points of that line are passed, and the place where the last word ended. -/
structure Cursor where
  rest : List Char
  index : Nat
  line : Nat
  column : Nat
  wordEnd : Nat

/-- Passes over `n` characters, counting line ends. -/
def Cursor.skip (k : Cursor) (n : Nat) : Cursor :=
  let passed := k.rest.take n
  let behind := passed.reverse.takeWhile (· != '\n')
  { k with
    rest := k.rest.drop n
    index := k.index + n
    line := k.line + passed.count '\n'
    column := if passed.contains '\n' then Text.length behind else k.column + Text.length passed }

def Cursor.position (k : Cursor) : Position := ⟨k.line, k.column + 1⟩

/-- A problem at the cursor; the character at the place `shown` is named. -/
def problemAt (data : List Char) (k : Cursor) (what : LexicalProblem) (shown : Nat) :
    LexicalError :=
  match (Text.cut 1 (data.drop shown)).1 with
  | [] => .nothingToShow
  | found => .problem what (String.ofList found) k.line (sourceLine data k.index)

/-- The length of a run of digits, low lines between them included, and the character that ends
it. `pending` counts low lines that no digit follows yet. -/
def digitSpan (isDigit : Char → Bool) : Nat → List Char → Nat × Option Char
  | _, [] => (0, none)
  | pending, c :: cs =>
    if isDigit c then
      let (n, stop) := digitSpan isDigit 0 cs
      (1 + pending + n, stop)
    else if c == '_' then digitSpan isDigit (pending + 1) cs
    else (0, some c)

def digitsLength (isDigit : Char → Bool) (cs : List Char) : Except LexicalError Nat :=
  if cs.isEmpty then .error .numberCutOff
  else
    match digitSpan isDigit 0 cs with
    | (n, some c) => .ok (if c == 'l' || c == 'L' then n + 1 else n)
    | (n, none) => .ok n

def isHexDigit (c : Char) : Bool :=
  c.isDigit || (97 ≤ c.toNat && c.toNat ≤ 102) || (65 ≤ c.toNat && c.toNat ≤ 70)

def isOctalDigit (c : Char) : Bool := 48 ≤ c.toNat && c.toNat ≤ 55

def isBinaryDigit (c : Char) : Bool := c == '0' || c == '1'

def headIn (set : List Char) (cs : List Char) : Bool := cs.head?.any set.contains

def exponentLength (cs : List Char) : Except LexicalError Nat := do
  let sign := if headIn ['-', '+'] cs then 1 else 0
  let n ← digitsLength Char.isDigit (cs.drop sign)
  .ok (sign + n)

def suffixLength (cs : List Char) : Nat := if headIn ['f', 'F', 'd', 'D'] cs then 1 else 0

def decimalLength (cs : List Char) : Except LexicalError Nat := do
  let whole ← digitsLength Char.isDigit cs
  if !headIn ['.', 'e', 'E', 'f', 'F', 'd', 'D'] (cs.drop whole) then .ok whole
  else
    let point ←
      if headIn ['.'] (cs.drop whole) then do
        let n ← digitsLength Char.isDigit (cs.drop (whole + 1))
        Except.ok (whole + 1 + n)
      else Except.ok whole
    let power ←
      if headIn ['e', 'E'] (cs.drop point) then do
        let n ← exponentLength (cs.drop (point + 1))
        Except.ok (point + 1 + n)
      else Except.ok point
    .ok (power + suffixLength (cs.drop power))

def hexLength (data : List Char) (k : Cursor) : Except LexicalError Nat := do
  let cs := k.rest
  let n ← digitsLength isHexDigit (cs.drop 2)
  let whole := 2 + n
  if !headIn ['.', 'p', 'P'] (cs.drop whole) then .ok whole
  else
    let point ←
      if headIn ['.'] (cs.drop whole) then do
        let n ← digitsLength isHexDigit (cs.drop (whole + 1))
        Except.ok (whole + 1 + n)
      else Except.ok whole
    if !headIn ['p', 'P'] (cs.drop point) then
      .error (problemAt data k .invalidHexFloat (k.index + point))
    else
      let n ← exponentLength (cs.drop (point + 1))
      let power := point + 1 + n
      .ok (power + suffixLength (cs.drop power))

def numberLength (data : List Char) (k : Cursor) : Except LexicalError Nat :=
  match k.rest with
  | ['0'] => .error .numberCutOff
  | '0' :: c :: cs =>
    if c == 'x' || c == 'X' then hexLength data k
    else if c == 'b' || c == 'B' then (digitsLength isBinaryDigit cs).map (2 + ·)
    else if isOctalDigit c then (digitsLength isOctalDigit (c :: cs)).map (1 + ·)
    else decimalLength k.rest
  | cs => decimalLength cs

/-- The length of quoted text after its opening quote, the closing quote included, or the
character that may not follow a backslash, if there is one. -/
def textLength (quote : Char) : List Char → Except (List Char) Nat
  | [] => .error []
  | '\\' :: [] => .error []
  | '\\' :: c :: cs =>
    if ['b', 't', 'n', 'f', 'r', 'u', '"', '\'', '\\'].contains c || isOctalDigit c then
      (textLength quote cs).map (2 + ·)
    else .error (Text.cut 1 (c :: cs)).1
  | c :: cs => if c == quote then .ok 1 else (textLength quote cs).map (1 + ·)

/-- The length of a block comment from its second character on, its end included. -/
def commentLength : List Char → Option Nat
  | '*' :: '/' :: _ => some 2
  | _ :: cs => (commentLength cs).map (1 + ·)
  | [] => none

/-- What stands at the cursor: something to pass over, or a word of a kind and length. -/
inductive Lexeme
  | skip (length : Nat)
  | word (kind : TokenKind) (length : Nat)

def operatorLength? (cs : List Char) : Option Nat :=
  (operators.find? fun op => Text.startsWith op.toList cs).map (·.length)

def quotedLexeme (data : List Char) (k : Cursor) (quote : Char) (cs : List Char) :
    Except LexicalError Lexeme :=
  match textLength quote cs with
  | .ok n => .ok (.word .literal (1 + n))
  | .error [] => .error (problemAt data k .unterminatedText k.wordEnd)
  | .error found =>
    .error (.problem .illegalEscape (String.ofList found) k.line (sourceLine data k.index))

def lexeme (data : List Char) (k : Cursor) : Except LexicalError Lexeme :=
  match k.rest with
  | [] => .ok (.skip 0)
  | c :: cs =>
    if Text.isBlank c then .ok (.skip (1 + (cs.takeWhile Text.isBlank).length))
    else if c == '/' && headIn ['/'] cs then
      let n := 1 + (cs.takeWhile (· != '\n')).length
      .ok (.skip (if n < k.rest.length then n + 1 else n))
    else if c == '/' && headIn ['*'] cs then
      match commentLength (cs.drop 1) with
      | some n => .ok (.skip (2 + n))
      | none => .error (problemAt data k .unterminatedComment k.wordEnd)
    else if Text.startsWith ['.', '.', '.'] k.rest then .ok (.word .operator 3)
    else if c == '@' then .ok (.word .note 1)
    else if c == '.' && cs.head?.any Text.isDigitSign then
      (decimalLength k.rest).map (.word .literal)
    else if separators.contains c then .ok (.word .separator 1)
    else if c == '\'' || c == '"' then quotedLexeme data k c cs
    else if c.isDigit then (numberLength data k).map (.word .literal)
    else if opensName c then
      let n := 1 + (cs.takeWhile continuesName).length
      .ok (.word (.ofWord (String.ofList (k.rest.take n))) n)
    else
      match operatorLength? k.rest with
      | some n => .ok (.word .operator n)
      | none =>
        .error (.problem .strayCharacter (String.ofList (Text.cut 1 k.rest).1) k.line
          (sourceLine data k.index))

/-- Reads the words from the cursor on; `done` holds those read before, last first. -/
def tokensFrom (data : List Char) : Nat → Cursor → List Token → Except LexicalError (List Token)
  | 0, _, done => .ok done.reverse
  | fuel + 1, k, done =>
    if k.rest.isEmpty then .ok done.reverse
    else
      match lexeme data k with
      | .error e => .error e
      | .ok (.skip n) => tokensFrom data fuel (k.skip n) done
      | .ok (.word kind n) =>
        let word := k.rest.take n
        tokensFrom data fuel
          { k with
            rest := k.rest.drop n
            index := k.index + n
            column := k.column + Text.length word
            wordEnd := k.index + n }
          (⟨kind, String.ofList word, k.position⟩ :: done)

def tokens (source : String) : Except LexicalError (List Token) := do
  let data ← unescape source.toList
  tokensFrom data (data.length + 1) ⟨data, 0, 1, 0, 0⟩ []

end DroidAudit.Java
