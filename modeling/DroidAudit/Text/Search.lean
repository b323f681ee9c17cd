/-! Finding, splitting and replacing in text, read as lists of characters. -/
namespace DroidAudit.Text

/-- What follows `word` at the front of `cs`, if it stands there. -/
def after? : List Char → List Char → Option (List Char)
  | [], cs => some cs
  | _ :: _, [] => none
  | w :: ws, c :: cs => if w == c then after? ws cs else none

def startsWith (word cs : List Char) : Bool := (after? word cs).isSome

/-- Whether `word` occurs in `cs`. -/
def occurs (word : List Char) : List Char → Bool
  | [] => word.isEmpty
  | c :: cs => startsWith word (c :: cs) || occurs word cs

def endsWith (word cs : List Char) : Bool := startsWith word.reverse cs.reverse

def contains (text word : String) : Bool := occurs word.toList text.toList

def hasSuffix (text ending : String) : Bool := endsWith ending.toList text.toList

def containsAny (text : String) (words : List String) : Bool :=
  words.any fun w => occurs w.toList text.toList

/-- Splits at every `sep`; there is always at least one piece. -/
def splitAt (sep : Char) : List Char → List (List Char)
  | [] => [[]]
  | c :: cs =>
    if c == sep then [] :: splitAt sep cs
    else
      match splitAt sep cs with
      | [] => [[c]]
      | piece :: rest => (c :: piece) :: rest

def replaceChar (old : Char) (new : List Char) (cs : List Char) : List Char :=
  cs.flatMap fun c => if c == old then new else [c]

/-- Replaces every occurrence of `old`, from the left, by `new`, after leaving out `skip`
characters. -/
def replaceFrom (old new : List Char) : Nat → List Char → List Char
  | _, [] => []
  | skip + 1, _ :: cs => replaceFrom old new skip cs
  | 0, c :: cs =>
    if !old.isEmpty && startsWith old (c :: cs) then
      new ++ replaceFrom old new (old.length - 1) cs
    else c :: replaceFrom old new 0 cs

def replace (text old new : String) : String :=
  String.ofList (replaceFrom old.toList new.toList 0 text.toList)

def join (sep : String) (pieces : List String) : String :=
  String.intercalate sep pieces

end DroidAudit.Text
