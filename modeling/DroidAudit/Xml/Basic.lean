/-! Elements of XML documents. -/
namespace DroidAudit.Xml

/-- A name: the label in front of its colon, the part behind it, and the namespace that the label
stands for. Label and namespace are empty where there are none. -/
structure Name where
  label : String
  part : String
  space : String
  deriving Repr, DecidableEq

namespace Name

def written (n : Name) : String := if n.label.isEmpty then n.part else n.label ++ ":" ++ n.part

def plain (part : String) : Name := ⟨"", part, ""⟩

/-- Whether it is the name `part` in no namespace. -/
def isPlain (n : Name) (part : String) : Bool := n.space.isEmpty && n.part == part

end Name

/-- How the value of an attribute is written: with its signs escaped, as it stands, or not at
all. -/
inductive Form
  | escaped | verbatim | unwritten
  deriving Repr, DecidableEq

structure Attribute where
  name : Name
  value : String
  form : Form := .escaped
  deriving Repr

/-- An element with the text up to its first child, and its children, each with the text behind
it. Text that is `none` has no written form. -/
inductive Element
  | mk (name : Name) (attributes : List Attribute) (text : Option String)
      (children : List (Element × String))

namespace Element

def name : Element → Name
  | mk n _ _ _ => n

def attributes : Element → List Attribute
  | mk _ as _ _ => as

def text : Element → Option String
  | mk _ _ t _ => t

def children : Element → List (Element × String)
  | mk _ _ _ cs => cs

def attribute? (e : Element) (written : String) : Option String :=
  (e.attributes.find? fun a => a.name.written == written).map (·.value)

def plainAttribute? (e : Element) (part : String) : Option String :=
  (e.attributes.find? fun a => a.name.isPlain part).map (·.value)

def childrenPlain (e : Element) (part : String) : List Element :=
  (e.children.map (·.1)).filter fun c => c.name.isPlain part

mutual
def all : Element → List Element
  | mk n as t cs => mk n as t cs :: allOfChildren cs

def allOfChildren : List (Element × String) → List Element
  | [] => []
  | (e, _) :: rest => e.all ++ allOfChildren rest
end

def descendants (e : Element) : List Element := allOfChildren e.children

def descendantsWritten (e : Element) (written : String) : List Element :=
  e.descendants.filter fun d => d.name.written == written

def descendantsPlain (e : Element) (part : String) : List Element :=
  e.descendants.filter fun d => d.name.isPlain part

mutual
def depth : Element → Nat
  | mk _ _ text children =>
    max (if text.any (!·.isEmpty) then 1 else 0) (depthOfChildren children) + 1

def depthOfChildren : List (Element × String) → Nat
  | [] => 0
  | (e, tail) :: rest =>
    max (max e.depth (if tail.isEmpty then 0 else 1)) (depthOfChildren rest)
end

/-- Whether the elements of a document lie too deep to be gone through. -/
def isTooDeep (e : Element) : Bool := 988 < e.depth

mutual
/-- How deep elements are nested, the outermost one included. -/
def height : Element → Nat
  | mk _ _ _ children => heightBelow children + 1

def heightBelow : List (Element × String) → Nat
  | [] => 0
  | (e, _) :: rest => max e.height (heightBelow rest)
end

def allWritten (e : Element) (written : String) : List Element :=
  e.all.filter fun d => d.name.written == written

end Element

end DroidAudit.Xml
