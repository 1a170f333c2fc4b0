import Frontend.Tree.Basic

namespace Frontend

/-!
# Building nodes from their kind

The inner nodes that carry nothing but their subtrees can be built from a kind and three optional
subtrees, left, middle and right.

* `Kind` — the kinds that can be built so, and `Kind.name` how they are called;
* `Node.make` — the building;
* `ShapeError` — what is wrong when the subtrees do not fit the kind, with its text.
-/

/-- A kind of inner node. -/
inductive Kind where
  | binary (operator : Operator)
  | sequence
  | conditional
  | conditionalElse
  | whileLoop
  | forHeader
  | forLoop
  deriving DecidableEq

/-- What a kind is called. -/
def Kind.name : Kind → String
  | binary operator => s!"BinaryOp({operator.symbol})"
  | sequence => "StatementSequence"
  | conditional => "Conditional"
  | conditionalElse => "ConditionalElse"
  | whileLoop => "WhileLoop"
  | forHeader => "ForHeader"
  | forLoop => "ForLoop"

/-- The place of a subtree. -/
inductive Slot where
  | left
  | middle
  | right
  deriving DecidableEq

/-- What a place is called. -/
def Slot.name : Slot → String
  | left => "left"
  | middle => "middle"
  | right => "right"

/-- How the given subtrees fail to fit a kind. -/
inductive ShapeError where
  /-- A subtree the kind needs is not there. -/
  | missing (kind : Kind) (slot : Slot)
  /-- A subtree is there that the kind has no use for. -/
  | unexpected (kind : Kind) (slot : Slot)
  deriving DecidableEq

/-- The text of a misfit. -/
def ShapeError.message : ShapeError → String
  | missing kind slot => s!"{kind.name} is missing its {slot.name} child"
  | unexpected kind slot => s!"{kind.name} does not take a {slot.name} child"

namespace Node

/-- The subtree at a place where `kind` needs one. -/
def required (kind : Kind) (slot : Slot) : Option Node → Except ShapeError Node
  | some node => .ok node
  | none => .error (.missing kind slot)

/-- A node with a left and a right subtree.  A middle one is refused before anything is missed. -/
def pair (kind : Kind) (build : Node → Node → Node) (left middle right : Option Node) :
    Except ShapeError Node :=
  match middle with
  | some _ => .error (.unexpected kind .middle)
  | none => do
    let left ← required kind .left left
    let right ← required kind .right right
    return build left right

/-- Builds a node of the given kind.  Most kinds take a left and a right subtree and no middle one;
    a conditional with an alternative takes all three, and the header of a counted loop any of
    them. -/
def make (kind : Kind) (left middle right : Option Node) : Except ShapeError Node :=
  match kind with
  | .binary operator => pair kind (binary operator) left middle right
  | .sequence => pair kind sequence left middle right
  | .conditional => pair kind conditional left middle right
  | .whileLoop => pair kind whileLoop left middle right
  | .forLoop => pair kind forLoop left middle right
  | .conditionalElse => do
    let condition ← required kind .left left
    let consequence ← required kind .middle middle
    let alternative ← required kind .right right
    return conditionalElse condition consequence alternative
  | .forHeader => return forHeader left middle right

end Node

end Frontend
