/-! Words of a command line. Blanks separate words; quotes and backslashes keep blanks inside a
word. Between double quotes a backslash escapes only itself and the quote. -/
namespace DroidAudit.Command

inductive WordsFault
  | unclosedQuote
  | danglingEscape
  deriving Repr, DecidableEq

def WordsFault.message : WordsFault → String
  | unclosedQuote => "No closing quotation"
  | danglingEscape => "No escaped character"

inductive WordsPlace
  | between
  | inside
  | quoting (quote : Char)
  | escaping (quote : Option Char)
  deriving Repr, DecidableEq

def separatesWords (c : Char) : Bool := c == ' ' || c == '\t' || c == '\r' || c == '\n'

def isQuote (c : Char) : Bool := c == '\'' || c == '"'

abbrev WordSoFar := List Char

def enterWord (c : Char) (word : WordSoFar) : WordsPlace × WordSoFar :=
  if isQuote c then (.quoting c, word)
  else if c == '\\' then (.escaping none, word)
  else (.inside, c :: word)

/-- What an escaped character adds: between quotes the backslash stays in front of anything but a
backslash and the quote. -/
def addEscaped (quote : Option Char) (c : Char) (word : WordSoFar) : WordsPlace × WordSoFar :=
  match quote with
  | none => (.inside, c :: word)
  | some q => (.quoting q, if c != '\\' && c != q then c :: '\\' :: word else c :: word)

def wordsFrom : WordsPlace → WordSoFar → List Char → Except WordsFault (List (List Char))
  | .between, _, [] => .ok []
  | .inside, word, [] => .ok [word.reverse]
  | .quoting _, _, [] => .error .unclosedQuote
  | .escaping _, _, [] => .error .danglingEscape
  | .between, word, c :: cs =>
    if separatesWords c then wordsFrom .between [] cs
    else wordsFrom (enterWord c word).1 (enterWord c word).2 cs
  | .inside, word, c :: cs =>
    if separatesWords c then (wordsFrom .between [] cs).map (word.reverse :: ·)
    else wordsFrom (enterWord c word).1 (enterWord c word).2 cs
  | .quoting q, word, c :: cs =>
    if c == q then wordsFrom .inside word cs
    else if c == '\\' && q == '"' then wordsFrom (.escaping (some q)) word cs
    else wordsFrom (.quoting q) (c :: word) cs
  | .escaping q, word, c :: cs =>
    wordsFrom (addEscaped q c word).1 (addEscaped q c word).2 cs

def words (line : String) : Except WordsFault (List String) :=
  (wordsFrom .between [] line.toList).map (·.map String.ofList)

end DroidAudit.Command
