import DroidAudit.Failure

/-! Patterns that are looked for in text. -/
namespace DroidAudit
namespace Pattern

def anySuffix (test : List Char → Bool) : List Char → Bool
  | [] => test []
  | c :: cs => test (c :: cs) || anySuffix test cs

/-- What follows characters that pass the given tests, if they stand in front. -/
def afterEach : List (Char → Bool) → List Char → Option (List Char)
  | [], cs => some cs
  | _ :: _, [] => none
  | test :: tests, c :: cs =>
    if test c then afterEach tests (if c == Text.selfMark then cs.drop 1 else cs) else none

/-- Whether `x` is the small letter `c` in some case. The letter i has two more forms, with and
without a dot, and the letter k one more. -/
def isLetterOf (c x : Char) : Bool :=
  x.toLower == c || (c == 'i' && (x == 'ı' || x == 'İ')) || (c == 'k' && x.toNat == 0x212A)

def inAnyCase (word : String) : List (Char → Bool) := word.toList.map isLetterOf

def hasWordInAnyCase (word : String) (cs : List Char) : Bool :=
  anySuffix (fun suffix => (afterEach (inAnyCase word) suffix).isSome) cs

def hasPrivateKey (cs : List Char) : Bool :=
  let header := inAnyCase "private" ++ [Text.isBlank] ++ inAnyCase "key"
  anySuffix (fun suffix => (afterEach header suffix).isSome) cs

def namesKey (cs : List Char) : Bool := hasWordInAnyCase "api" cs || hasWordInAnyCase "key" cs

def firstLine (cs : List Char) : List Char := cs.takeWhile (· != '\n')

def isSmall (c : Char) : Bool := 'a' ≤ c && c ≤ 'z'

def isCapital (c : Char) : Bool := 'A' ≤ c && c ≤ 'Z'

def isNotLineFeed (c : Char) : Bool := c != '\n'

/-- Whether at least `n` characters of the line come next. -/
def showsMany (n : Nat) (cs : List Char) : Bool :=
  (afterEach (List.replicate n isNotLineFeed) cs).isSome

def lineHas (test : Char → Bool) : List Char → Bool
  | [] => false
  | c :: cs => test c || (isNotLineFeed c && lineHas test cs)

def showsBehind (test : Char → Bool) (cs : List Char) : Bool :=
  (afterEach [isNotLineFeed] cs).any (lineHas test)

/-- A place from where a line goes on for long and has, behind the next character, a digit, a small
letter, a capital and a hyphen or low line. -/
def looksLikeKey (cs : List Char) : Bool :=
  anySuffix
    (fun suffix =>
      showsMany 20 suffix && showsBehind Text.isDecimal suffix && showsBehind isSmall suffix &&
        showsBehind isCapital suffix && showsBehind (fun c => c == '-' || c == '_') suffix)
    cs

def specialCharacters : List Char := "!$%^&*()_+|~=`\x7b\x7d[]:<>?,./".toList

def hasSpecialCharacter (cs : List Char) : Bool :=
  anySuffix (showsBehind specialCharacters.contains) cs

def isUrlCharacter (c : Char) : Bool :=
  isSmall c || ('$' ≤ c && c ≤ '_') || c == '!'

/-- The first address that is not encrypted, with at least one character behind the scheme. -/
def plainUrl? : List Char → Option String
  | [] => none
  | c :: cs =>
    match Text.after? "http://".toList (c :: cs) with
    | some rest =>
      if rest.head?.any isUrlCharacter then
        some ("http://" ++ String.ofList (rest.takeWhile isUrlCharacter))
      else plainUrl? cs
    | none => plainUrl? cs

def phoneMethods : List String := ["getLine1Number", "getDeviceId"]

def isQuote (c : Char) : Bool := c == '\'' || c == '"'

def exactly (word : String) : List (Char → Bool) := word.toList.map fun c x => x == c

/-- The name of the phone manager's class in full; any character may stand for the dots. -/
def phonePackage : List (Char → Bool) :=
  exactly "android" ++ [isNotLineFeed] ++ exactly "telephony" ++ [isNotLineFeed]

/-- A phone manager that is cast, fetched and asked in one expression, from its class name on. -/
def inlinePhoneCallRest (cs : List Char) : Bool :=
  match Text.after? "TelephonyManager)".toList cs with
  | none => false
  | some rest =>
    let service := exactly ".getSystemService(" ++ [isQuote] ++ exactly "phone" ++ [isQuote]
    match afterEach service (rest.dropWhile Text.isWordChar) with
    | none => false
    | some rest =>
      let closing := rest.takeWhile (· == ')')
      2 ≤ closing.length &&
        phoneMethods.any fun m => Text.startsWith ('.' :: m.toList) (rest.drop closing.length)

def hasInlinePhoneCall (cs : List Char) : Bool :=
  anySuffix
    (fun suffix =>
      match Text.after? ['(', '('] suffix with
      | none => false
      | some rest =>
        inlinePhoneCallRest rest ||
          (match afterEach phonePackage rest with
          | some rest => inlinePhoneCallRest rest
          | none => false))
    cs

def phoneVariable? (cs : List Char) : Option (String × Nat) := do
  let rest ← Text.after? "TelephonyManager".toList cs
  let rest ← afterEach [Text.isBlank] rest
  let name := rest.takeWhile Text.isWordChar
  let length := "TelephonyManager".length + 1 + name.length
  match rest.drop name.length with
  | ',' :: _ | ')' :: _ | ';' :: _ => some (String.ofList name, length + 1)
  | c :: '=' :: _ => if Text.isBlank c then some (String.ofList name, length + 2) else none
  | _ => none

/-- The variables that are declared as phone managers, read from left to right; `skip` characters
belong to a declaration already read. -/
def phoneVariables : Nat → List Char → List String
  | _, [] => []
  | skip + 1, _ :: cs => phoneVariables skip cs
  | 0, c :: cs =>
    match phoneVariable? (c :: cs) with
    | some (name, length) => name :: phoneVariables (length - 1) cs
    | none => phoneVariables 0 cs

/-- Whether a variable of that name is asked for the number or the identifier of the phone; the
call is closed on the same line. -/
def asksPhone (name : String) (cs : List Char) : Bool :=
  anySuffix
    (fun suffix =>
      phoneMethods.any fun m =>
        match Text.after? (name ++ "." ++ m ++ "(").toList suffix with
        | some rest => (firstLine rest).contains ')'
        | none => false)
    cs

end Pattern

inductive LinePattern
  | literal (words : String)
  | plainUrl
  | apiKey
  | specialCharacter
  | inlinePhoneCall
  | phoneVariable
  | namedKey
  | privateKey
  deriving Repr, DecidableEq

namespace LinePattern

def worldReadable : LinePattern := .literal "MODE_WORLD_READABLE"

def worldWriteable : LinePattern := .literal "MODE_WORLD_WRITEABLE"

def occursIn : LinePattern → List Char → Bool
  | literal words, cs => Text.occurs words.toList cs
  | plainUrl, cs => (Pattern.plainUrl? cs).isSome
  | apiKey, cs => Pattern.looksLikeKey cs
  | specialCharacter, cs => Pattern.hasSpecialCharacter cs
  | inlinePhoneCall, cs => Pattern.hasInlinePhoneCall cs
  | phoneVariable, cs => Pattern.anySuffix (fun s => (Pattern.phoneVariable? s).isSome) cs
  | namedKey, cs => Pattern.namesKey cs
  | privateKey, cs => Pattern.hasPrivateKey cs

/-- Lines that are not searched: comments, logging, and fields that hold text or lists. -/
def isExempt (line : List Char) : Bool :=
  let rest := line.dropWhile Text.isBlank
  let logging := Pattern.exactly "Log." ++ [Pattern.isNotLineFeed] ++ Pattern.exactly "("
  let field (access type : String) :=
    Pattern.exactly access ++ [Text.isBlank] ++ Pattern.exactly type
  Text.startsWith "//".toList rest || Text.startsWith "/*".toList rest ||
    Text.startsWith "*".toList rest || Text.endsWith "*/".toList (Pattern.firstLine line) ||
    (Pattern.afterEach logging rest).isSome ||
    Pattern.anySuffix
      (fun suffix =>
        ["public", "private"].any fun access => ["String", "List"].any fun type =>
          (Pattern.afterEach (field access type) suffix).isSome)
      line

def keeps (p : LinePattern) (line : List Char) : Bool := p.occursIn line && !isExempt line

/-- The lines of a file that hold a pattern and are not exempt, with their line feeds. A file that
cannot be read has none; of one that cannot be decoded only what is read before the fault
counts. -/
def linesIn (p : LinePattern) (fs : FileSystem) (path : Option String)
    (encoding : Option Text.Encoding) : List String :=
  match fs.bytesAt path with
  | .error _ => []
  | .ok bytes =>
    let lines := (encoding.map (·.linesOf bytes)).getD []
    (lines.filter p.keeps).map String.ofList

end LinePattern

end DroidAudit
