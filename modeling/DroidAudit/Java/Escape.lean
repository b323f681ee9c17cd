import DroidAudit.Text.Integer

/-! Code point escapes in Java source text. A backslash, one or more letters u and up to four
characters that read as a hexadecimal number stand for one character. -/
namespace DroidAudit.Java

inductive LexicalProblem
  | strayCharacter
  | unterminatedText
  | unterminatedComment
  | illegalEscape
  | invalidCodePoint
  | invalidHexFloat
  deriving Repr, DecidableEq

def LexicalProblem.words : LexicalProblem → String
  | .strayCharacter => "Could not process token"
  | .unterminatedText => "Unterminated character/string literal"
  | .unterminatedComment => "Unterminated block comment"
  | .illegalEscape => "Illegal escape character"
  | .invalidCodePoint => "Invalid unicode escape"
  | .invalidHexFloat => "Invalid hex float literal"

/-- Why source text cannot be read as a sequence of words. -/
inductive LexicalError
  | problem (what : LexicalProblem) (found : String) (line : Nat) (source : String)
  /-- The text ends where a digit was expected. -/
  | numberCutOff
  /-- The text ends where the offending character would be shown. -/
  | nothingToShow
  /-- An escape names a negative code point. -/
  | negativeCodePoint
  deriving Repr, DecidableEq

def LexicalError.message : LexicalError → String
  | .problem what found line source =>
    what.words ++ " at \"" ++ found ++ "\", line " ++ toString line ++ ": " ++ source
  | .numberCutOff => "'in <string>' requires string as left operand, not NoneType"
  | .nothingToShow => "string index out of range"
  | .negativeCodePoint => "chr() arg not in range(0x110000)"

/-- The line of `data` around the place `index`, trimmed. A last line without a line feed is shown
without its last character. -/
def sourceLine (data : List Char) (index : Nat) : String :=
  let before := ((data.take index).reverse.takeWhile (· != '\n')).reverse
  let after := data.drop index
  let line :=
    if after.contains '\n' then before ++ after.takeWhile (· != '\n')
    else (Text.cut (Text.length (before ++ after) - 1) (before ++ after)).1
  String.ofList (Text.trim line)

def hexadecimalValue? (c : Char) : Option Nat :=
  if c.isDigit then some (c.toNat - 48)
  else if 97 ≤ c.toNat && c.toNat ≤ 102 then some (c.toNat - 87)
  else if 65 ≤ c.toNat && c.toNat ≤ 70 then some (c.toNat - 55)
  else none

/-- Hexadecimal digits with single low lines between them. -/
def hexadecimal? (value : Nat) : List Char → Option Nat
  | [] => none
  | [c] => (hexadecimalValue? c).map (16 * value + ·)
  | c :: '_' :: cs => do hexadecimal? (16 * value + (← hexadecimalValue? c)) cs
  | c :: cs => do hexadecimal? (16 * value + (← hexadecimalValue? c)) cs

/-- The number that the characters of an escape stand for: blanks around it, a sign and the
customary marker in front are allowed. -/
def escapeValue? (cs : List Char) : Option Int :=
  let (negative, body) := Text.cutSign (Text.trimNumber (Text.plainNumber cs))
  let digits :=
    match body with
    | '0' :: 'x' :: '_' :: rest => rest
    | '0' :: 'X' :: '_' :: rest => rest
    | '0' :: 'x' :: rest => rest
    | '0' :: 'X' :: rest => rest
    | rest => rest
  (hexadecimal? 0 digits).map fun n => if negative then -(n : Int) else n

/-- Replaces the escapes of `data`. `done` holds the finished part and `piece` what was read since
the last escape, both last character first, each character with the line on which it is written;
`line` is the one at hand. A marker at the very end of the text repeats the last piece. -/
def decodeEscapes (data : List Char) :
    Nat → Nat → List (Char × Nat) → List (Char × Nat) → List Char →
      Except LexicalError (List (Char × Nat))
  | 0, line, done, piece, rest => .ok (done.reverse ++ piece.reverse ++ rest.map (·, line))
  | fuel + 1, line, done, piece, rest =>
    match rest with
    | [] => .ok (done.reverse ++ piece.reverse)
    | '\\' :: 'u' :: more =>
      let marks := more.takeWhile (· == 'u')
      match more.dropWhile (· == 'u') with
      | [] =>
        let repeated := piece.reverse.map (·.1) ++ '\\' :: 'u' :: marks
        .ok (done.reverse ++ piece.reverse ++ repeated.map (·, line))
      | c :: cs =>
        let (shown, rest) := Text.cut 4 (c :: cs)
        match escapeValue? shown with
        | none => .error (.problem .invalidCodePoint (String.ofList shown) 1 (sourceLine data 0))
        | some n =>
          if n < 0 then .error .negativeCodePoint
          else
            let read := (Text.ofPoint n.toNat).reverse.map (·, line)
            decodeEscapes data fuel (line + shown.count '\n') (read ++ piece ++ done) [] rest
    | '\\' :: c :: more =>
      decodeEscapes data fuel (line + [c].count '\n') done ((c, line) :: ('\\', line) :: piece) more
    | c :: more => decodeEscapes data fuel (line + [c].count '\n') done ((c, line) :: piece) more

/-- The characters that are read in a text, each with its line. -/
def lined (data : List Char) : Except LexicalError (List (Char × Nat)) :=
  decodeEscapes data (data.length + 1) 1 [] [] data

def unescape (data : List Char) : Except LexicalError (List Char) :=
  (lined data).map (·.map (·.1))

end DroidAudit.Java
