import DroidAudit.Finding.Basic

/-! The tree of a Java source file. Every node has a kind, the place where it was written if that
is kept, and its children in reading order, each with the part it plays. -/
namespace DroidAudit.Java

/-- What a node is, with the names written on it. The qualifier of a primary expression is the
dotted text in front of its last name; what follows a primary as a selector has none. -/
inductive Kind
  | compilationUnit
  | packageName (name : String)
  | importName (path : String) (static wildcard : Bool)
  | classDeclaration (name : String)
  | enumDeclaration (name : String)
  | interfaceDeclaration (name : String)
  | annotationDeclaration (name : String)
  | basicType (name : String)
  | referenceType (name : String)
  | typeArgument
  | typeParameter (name : String)
  | note (name : String)
  | elementPair (name : String)
  | elementArray
  | methodDeclaration (name : String)
  | constructorDeclaration (name : String)
  | fieldDeclaration
  | constantDeclaration
  | annotationMethod (name : String)
  | enumBody
  | enumConstant (name : String)
  | variableDeclaration
  | localVariableDeclaration
  | variableDeclarator (name : String)
  | arrayInitializer
  | formalParameter (name : String)
  | inferredParameter (name : String)
  | emptyStatement
  | blockStatement
  | ifStatement
  | whileStatement
  | doStatement
  | forStatement
  | assertStatement
  | breakStatement
  | continueStatement
  | returnStatement
  | throwStatement
  | synchronizedStatement
  | tryStatement
  | switchStatement
  | statementExpression
  | catchClause
  | catchParameter (name : String)
  | tryResource (name : String)
  | switchCase
  | forControl
  | enhancedForControl
  | assignment
  | ternary
  | binaryOperation (operator : String)
  | cast
  | methodReference
  | lambda
  | literal (text : String)
  | this
  | superWord
  | memberReference (qualifier : Option String) (member : String)
  | classReference
  | methodInvocation (qualifier : Option String) (member : String)
  | superMethodInvocation (member : String)
  | constructorInvocation
  | superConstructorInvocation
  | superMemberReference (member : String)
  | arrayCreator
  | classCreator
  | innerClassCreator
  | arraySelector
  deriving Repr, DecidableEq

inductive Part
  | selector
  | argument
  | body
  | type
  | declarator
  | other
  deriving Repr, DecidableEq

inductive Node (P : Type := Position)
  | mk (kind : Kind) (position : Option P) (children : List (Part × Node P))

namespace Node

mutual

/-- Whether two nodes are the same, part by part. -/
def same : Node → Node → Bool
  | mk kind position children, mk kind' position' children' =>
    kind == kind' && position == position' && sameChildren children children'

def sameChildren : List (Part × Node) → List (Part × Node) → Bool
  | [], [] => true
  | (part, n) :: rest, (part', n') :: rest' => part == part' && same n n' && sameChildren rest rest'
  | _, _ => false

end

mutual

theorem same_iff_eq : ∀ m n : Node, same m n = true ↔ m = n
  | mk kind position children, mk kind' position' children' => by
    simp only [same, Bool.and_eq_true, beq_iff_eq, sameChildren_iff_eq children children',
      mk.injEq, and_assoc]

theorem sameChildren_iff_eq : ∀ cs ds : List (Part × Node), sameChildren cs ds = true ↔ cs = ds
  | [], [] => by simp [sameChildren]
  | (part, n) :: rest, (part', n') :: rest' => by
    simp only [sameChildren, Bool.and_eq_true, beq_iff_eq, same_iff_eq n n',
      sameChildren_iff_eq rest rest', List.cons.injEq, Prod.mk.injEq]
  | [], _ :: _ | _ :: _, [] => by simp [sameChildren]

end

instance : DecidableEq Node := fun m n => decidable_of_decidable_of_iff (same_iff_eq m n)

variable {P Q : Type}

def kind : Node P → Kind
  | mk k _ _ => k

def position : Node P → Option P
  | mk _ p _ => p

def children : Node P → List (Part × Node P)
  | mk _ _ cs => cs

def withPosition (n : Node P) (p : P) : Node P := mk n.kind (some p) n.children

mutual
def map (f : P → Q) : Node P → Node Q
  | mk kind p cs => mk kind (p.map f) (mapChildren f cs)

def mapChildren (f : P → Q) : List (Part × Node P) → List (Part × Node Q)
  | [] => []
  | (part, n) :: rest => (part, n.map f) :: mapChildren f rest
end

def part (n : Node) (p : Part) : List Node :=
  n.children.filterMap fun (q, child) => if q = p then some child else none

def arguments (n : Node) : List Node := n.part .argument

def selectors (n : Node) : List Node := n.part .selector

def body (n : Node) : List Node := n.part .body

mutual
/-- The node and everything below it, in reading order. -/
def walk : Node P → List (Node P)
  | mk k p cs => mk k p cs :: walkChildren cs

def walkChildren : List (Part × Node P) → List (Node P)
  | [] => []
  | (_, n) :: rest => n.walk ++ walkChildren rest
end

end Node

def maxDepth : Nat := 985

/-- Kinds that hold each of their children by itself. Other kinds hold them in lists, each of which
is a level of its own. -/
def Kind.holdsSingly : Kind → Bool
  | .binaryOperation _ | .ternary | .assignment | .cast | .methodReference | .ifStatement
  | .whileStatement | .doStatement | .forStatement | .assertStatement | .returnStatement
  | .throwStatement | .statementExpression | .variableDeclarator _ | .arraySelector
  | .typeArgument | .elementPair _ | .enhancedForControl => true
  | _ => false

/-- How many levels a child lies below its node. The rest of a dotted type is no list. -/
def levelsBelow : Kind → Kind → Nat
  | .referenceType _, .referenceType _ => 1
  | kind, _ => if kind.holdsSingly then 1 else 2

namespace Node

mutual
/-- The nodes that are met in reading order before one lies too deep, and whether none does. -/
def walkWithin : Nat → Node → List Node × Bool
  | room, mk k p cs =>
    let (below, whole) := walkChildrenWithin room k cs
    (mk k p cs :: below, whole)

def walkChildrenWithin (room : Nat) (kind : Kind) : List (Part × Node) → List Node × Bool
  | [] => ([], true)
  | (_, n) :: rest =>
    if room < levelsBelow kind n.kind then ([], false)
    else
      match n.walkWithin (room - levelsBelow kind n.kind) with
      | (found, false) => (found, false)
      | (found, true) =>
        let (more, whole) := walkChildrenWithin room kind rest
        (found ++ more, whole)
end

def reached (n : Node) : List Node × Bool := n.walkWithin maxDepth

mutual
/-- How many calls lie inside of each other when a node is copied: four for the node, two for each list
of children, and some for its place and its names. -/
def copyDepth : Node → Nat
  | mk kind p cs => 4 + max (if p.isSome then 5 else 2) (copyDepthBelow kind cs)

def copyDepthBelow (kind : Kind) : List (Part × Node) → Nat
  | [] => 0
  | (_, n) :: rest =>
    max (2 * (levelsBelow kind n.kind - 1) + n.copyDepth) (copyDepthBelow kind rest)
end

/-- Whether a table that holds the node can be copied. -/
def isCopyable (n : Node) : Bool := n.copyDepth + 2 ≤ maxDepth

end Node

def Kind.isPrimary : Kind → Bool
  | .literal _ | .this | .memberReference .. | .classReference | .methodInvocation ..
  | .superMethodInvocation _ | .constructorInvocation | .superConstructorInvocation
  | .superMemberReference _ | .arrayCreator | .classCreator | .innerClassCreator => true
  | _ => false

def Kind.takesArguments : Kind → Bool
  | .methodInvocation .. | .superMethodInvocation _ | .constructorInvocation
  | .superConstructorInvocation | .classCreator | .innerClassCreator => true
  | _ => false

/-- Replaces the selectors of a primary; elsewhere they are lost. -/
def Node.withSelectors {P : Type} (n : Node P) (selectors : List (Node P)) : Node P :=
  if n.kind.isPrimary then
    .mk n.kind n.position
      (selectors.map (fun s => (Part.selector, s)) ++ n.children.filter (·.1 != .selector))
  else n

def Node.imports (unit : Node) : List String :=
  unit.children.filterMap fun (_, n) =>
    match n.kind with
    | .importName path _ _ => some path
    | _ => none

end DroidAudit.Java
