import DroidAudit.Text.Search

/-! Lines of text. A carriage return, alone or before a line feed, ends a line too. -/
namespace DroidAudit.Text

/-- Writes every line end as a line feed. -/
def unifyNewlines : List Char → List Char
  | [] => []
  | '\r' :: '\n' :: cs => '\n' :: unifyNewlines cs
  | '\r' :: cs => '\n' :: unifyNewlines cs
  | c :: cs => c :: unifyNewlines cs

/-- The lines of a text, each with its line feed; the last may lack it and is never empty. -/
def linesKept : List Char → List (List Char)
  | [] => []
  | c :: cs =>
    if c == '\n' then ['\n'] :: linesKept cs
    else
      match linesKept cs with
      | [] => [[c]]
      | line :: rest => (c :: line) :: rest

def lines (cs : List Char) : List (List Char) := splitAt '\n' cs

/-- Pairs every element with its place in the list, counted from `n`. -/
def numbered {α : Type} (n : Nat) : List α → List (Nat × α)
  | [] => []
  | a :: as => (n, a) :: numbered (n + 1) as

end DroidAudit.Text
