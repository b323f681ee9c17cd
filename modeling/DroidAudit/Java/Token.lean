import DroidAudit.Finding.Basic
import DroidAudit.Text.Digit
import DroidAudit.Text.Letter

/-! Words of Java source text. -/
namespace DroidAudit.Java

inductive TokenKind
  | identifier
  | keyword
  | modifier
  | basicType
  | literal
  | separator
  | operator
  | note
  deriving Repr, DecidableEq

/-- A word and where it stands. -/
structure Token (P : Type := Position) where
  kind : TokenKind
  text : String
  position : P
  deriving Repr

def modifierWords : List String :=
  ["abstract", "default", "final", "native", "private", "protected", "public", "static",
   "strictfp", "synchronized", "transient", "volatile"]

def basicTypeWords : List String :=
  ["boolean", "byte", "char", "double", "float", "int", "long", "short"]

def otherKeywords : List String :=
  ["assert", "break", "case", "catch", "class", "const", "continue", "do", "else", "enum",
   "extends", "finally", "for", "goto", "if", "implements", "import", "instanceof", "interface",
   "new", "package", "return", "super", "switch", "this", "throw", "throws", "try", "void",
   "while"]

def literalWords : List String := ["true", "false", "null"]

def TokenKind.ofWord (word : String) : TokenKind :=
  if basicTypeWords.contains word then .basicType
  else if modifierWords.contains word then .modifier
  else if otherKeywords.contains word then .keyword
  else if literalWords.contains word then .literal
  else .identifier

def separators : List Char := ['(', ')', '\x7b', '\x7d', '[', ']', ';', ',', '.']

/-- Operators, longest first. The shifts to the right are left out: two or three signs may also
close nested type arguments, so they are joined only where an operator is expected. -/
def operators : List String :=
  [">>>=", ">>=", "<<=", "...", "%=", "^=", "|=", "&=", "/=", "*=", "-=", "+=", "<<", "--", "++",
   "||", "&&", "!=", ">=", "<=", "==", "->", "::", "%", "^", "|", "&", "/", "*", "-", "+", ":",
   "?", "~", "!", "<", ">", "="]

def infixOperators : List String :=
  ["||", "&&", "|", "^", "&", "==", "!=", "<", ">", "<=", ">=", "<<", ">>", ">>>", "+", "-", "*",
   "/", "%"]

def leadingOperators : List String := ["++", "--", "!", "~", "+", "-"]

def trailingOperators : List String := ["++", "--"]

def assignmentOperators : List String :=
  ["=", "+=", "-=", "*=", "/=", "&=", "|=", "^=", "%=", "<<=", ">>=", ">>>="]

def opensName (c : Char) : Bool :=
  if c.val < 128 then c.isAlpha || c == '_' || c == '$'
  else
    Text.isLetter c || Text.within Text.letterNumberRanges c ||
      Text.within Text.connectorRanges c || Text.within Text.currencyRanges c

def continuesName (c : Char) : Bool :=
  opensName c || Text.isDecimal c || (128 ≤ c.val && Text.within Text.markRanges c)

end DroidAudit.Java
