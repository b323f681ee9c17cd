import DroidAudit.Xml.Markup

/-! How much entities make a document grow. A mention of an entity stands for its text, in which
others may be mentioned. A document that would grow too much is not read. -/
namespace DroidAudit.Xml

/-- Up to this many bytes a document may grow, however small it is. -/
def freeGrowth : Nat := 8388608

/-- How many times as large a document may become beyond that. -/
def maxGrowth : Nat := 100

/-- Whether `spent` bytes of entities are too much behind so many bytes of a document. -/
def growsTooMuch (front spent : Nat) : Bool :=
  freeGrowth ≤ front + spent && maxGrowth * front < front + spent

def byteCount (cs : List Char) : Nat := cs.foldl (fun n c => n + c.utf8Size) 0

/-- A mention of an entity: its name, the bytes up to its end, and how many characters stand from
it on. -/
structure Mention where
  name : String
  front : Nat
  left : Nat

/-- Nothing is mentioned in comments, plain sections and instructions: how such a stretch ends. -/
def closingFor? (cs : List Char) : Option (List Char) :=
  if Text.startsWith "<!--".toList cs then some "-->".toList
  else if Text.startsWith "<![CDATA[".toList cs then some "]]>".toList
  else if Text.startsWith "<?".toList cs then some "?>".toList
  else none

def mentionedAt? : List Char → Option (List Char)
  | '&' :: cs =>
    let name := cs.takeWhile continuesName
    if !name.isEmpty && (cs.dropWhile continuesName).head? == some ';' then some name else none
  | _ => none

/-- The mentions in a text of `left` characters that stands behind `front` bytes. `closing` ends
the stretch that is being passed over. -/
def mentionsFrom :
    Option (List Char) → Nat → Nat → List Mention → List Char → List Mention
  | _, _, _, done, [] => done.reverse
  | closing, front, left, done, c :: cs =>
    match closing with
    | some word =>
      mentionsFrom (if Text.startsWith word (c :: cs) then none else closing)
        (front + c.utf8Size) (left - 1) done cs
    | none =>
      let done :=
        match mentionedAt? (c :: cs) with
        | some name => ⟨String.ofList name, front + byteCount name + 2, left⟩ :: done
        | none => done
      mentionsFrom (closingFor? (c :: cs)) (front + c.utf8Size) (left - 1) done cs

def mentions (front : Nat) (cs : List Char) : List Mention :=
  mentionsFrom none front cs.length [] cs

namespace Entities

/-- The bytes that a mention stands for: those of the entity's text and of all that it mentions.
`known` holds what is known of other entities. -/
def costFrom (es : Entities) :
    Nat → List (String × Nat) → String → Nat × List (String × Nat)
  | 0, known, _ => (0, known)
  | fuel + 1, known, name =>
    match known.lookup name, predefined name, es.get? name with
    | some cost, _, _ => (cost, known)
    | none, some _, _ => (1, known)
    | none, none, some (.text text) =>
      let (cost, known) :=
        (mentions 0 text).foldl
          (fun (sum, known) m =>
            let (cost, known) := es.costFrom fuel known m.name
            (sum + cost, known))
          (byteCount text, (name, 0) :: known)
      (cost, (name, cost) :: known)
    | none, none, _ => (0, known)

def growthFrom (es : Entities) (known : List (String × Nat)) (spent : Nat) :
    List Mention → Except Nat Nat
  | [] => .ok spent
  | m :: ms =>
    let (cost, known) := es.costFrom (es.declared.length + 2) known m.name
    if growsTooMuch m.front (spent + cost) then .error m.left
    else es.growthFrom known (spent + cost) ms

/-- The same for a text behind `front` bytes. -/
def growth (es : Entities) (front spent : Nat) (cs : List Char) : Except Nat Nat :=
  if es.declared.isEmpty then .ok spent else es.growthFrom [] spent (mentions front cs)

end Entities

end DroidAudit.Xml
