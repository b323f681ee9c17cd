import DroidAudit.Command.Tools

/-! The version of Java: the first number with a point and another number behind it. -/
namespace DroidAudit.JavaVersion

def find? : List Char → Option (List Char)
  | [] => none
  | c :: cs =>
    if Text.isDecimal c then
      match (c :: cs).dropWhile Text.isDecimal with
      | '.' :: rest =>
        let minor := rest.takeWhile Text.isDecimal
        if minor.isEmpty then find? cs
        else some ((c :: cs).takeWhile Text.isDecimal ++ '.' :: minor)
      | _ => find? cs
    else find? cs

def digits (cs : List Char) : Nat :=
  cs.foldl (fun n c => 10 * n + (Text.decimalValue? c).getD 0) 0

def tenths (version : List Char) : Nat :=
  let lead := version.take 3
  let whole := lead.takeWhile Text.isDecimal
  10 * digits whole + digits (lead.drop (whole.length + 1))

/-- Whether the unpacker runs under a version: the first three characters, read as a number, are
1.7 or more. -/
def isRecent (version : List Char) : Bool := 17 ≤ tenths version

def ask (t : Tools) : Desk.Work (List Char) := do
  Desk.note { line := ["java", "-version"] }
  match t.javaVersion with
  | .error detail => throw (.stop (.noJava detail))
  | .ok printed =>
    match find? printed.toList with
    | some version => return version
    | none => throw (.absent .version)

/-- Stops the program under a version that is too early for the unpacker. -/
def gate (t : Tools) : Desk.Work Unit := do
  if !isRecent (← ask t) then throw (.stop .oldJava)

end DroidAudit.JavaVersion
