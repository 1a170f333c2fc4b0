namespace Frontend

/-!
# Program trees

The tree of a parsed program.

* `Operator` — the binary operators, with their symbols;
* `Node` — a node with its subtrees;
* `Node.slots`, `Node.children` — the subtrees, at their places and without the places;
* `Node.head` — a node without its subtrees, and `Head.label` how it is shown;
* `Node.size`, `Node.totalSize` — the number of nodes in one tree and in several.

A node is determined by its head and its children (`Node.eq_of_head_eq`), and facts about all nodes
are proved by `Node.induct`, from the children to the node.
-/

/-- A binary operator. -/
inductive Operator where
  | add
  | sub
  | mul
  | div
  | mod
  | gt
  | lt
  | ge
  | le
  | eq
  | ne
  deriving DecidableEq

/-- The operator as it is written. -/
def Operator.symbol : Operator → String
  | add => "+"
  | sub => "-"
  | mul => "*"
  | div => "/"
  | mod => "%"
  | gt => ">"
  | lt => "<"
  | ge => ">="
  | le => "<="
  | eq => "=="
  | ne => "!="

/-- A node of a program tree, with all the trees below it. -/
inductive Node where
  | literal (value : Int64)
  | identifier (name : String)
  | binary (operator : Operator) (left right : Node)
  | assignment (name : String) (value : Node)
  | declaration (name : String) (initial : Option Node)
  /-- One statement and the chain of those after it. -/
  | sequence (first rest : Node)
  | conditional (condition consequence : Node)
  | conditionalElse (condition consequence alternative : Node)
  | whileLoop (condition body : Node)
  /-- The three parts between the parentheses of a counted loop; each may be missing. -/
  | forHeader (start condition update : Option Node)
  | forLoop (header body : Node)
  deriving Inhabited

/-- A node without its subtrees.  Where a part may be missing, the head says whether it is
    there. -/
inductive Head where
  | literal (value : Int64)
  | identifier (name : String)
  | binary (operator : Operator)
  | assignment (name : String)
  | declaration (name : String) (initialized : Bool)
  | sequence
  | conditional
  | conditionalElse
  | whileLoop
  | forHeader (start condition update : Bool)
  | forLoop
  deriving DecidableEq

/-- How a node is shown: its kind, and in parentheses what it carries itself. -/
def Head.label : Head → String
  | literal value => s!"Literal({value.toInt})"
  | identifier name => s!"Identifier({name})"
  | binary operator => s!"BinaryOp({operator.symbol})"
  | assignment name => s!"Assignment({name})"
  | declaration name _ => s!"Declaration({name})"
  | sequence => "StatementSequence"
  | conditional => "Conditional"
  | conditionalElse => "ConditionalElse"
  | whileLoop => "WhileLoop"
  | forHeader _ _ _ => "ForHeader"
  | forLoop => "ForLoop"

namespace Node

/-! ### Subtrees -/

/-- The subtrees at their three places, from left to right; the places a node does not use, or
    leaves open, are `none`. -/
def slots : Node → List (Option Node)
  | literal _ | identifier _ => [none, none, none]
  | binary _ left right => [some left, some right, none]
  | assignment _ value => [some value, none, none]
  | declaration _ initial => [initial, none, none]
  | sequence first rest => [some first, some rest, none]
  | conditional condition consequence => [some condition, some consequence, none]
  | conditionalElse condition consequence alternative =>
    [some condition, some consequence, some alternative]
  | whileLoop condition body => [some condition, some body, none]
  | forHeader start condition update => [start, condition, update]
  | forLoop header body => [some header, some body, none]

/-- The subtrees that are there, from left to right. -/
def children (node : Node) : List Node :=
  node.slots.filterMap id

theorem mem_children {child node : Node} : child ∈ node.children ↔ some child ∈ node.slots := by
  simp [children]

/-- A child is a smaller tree. -/
theorem sizeOf_lt_of_mem_children {child node : Node} (h : child ∈ node.children) :
    sizeOf child < sizeOf node := by
  rw [mem_children] at h
  cases node <;> simp only [slots, List.mem_cons, List.not_mem_nil, or_false, reduceCtorEq,
    Option.some.injEq] at h
  case assignment => subst h; simp +arith
  case declaration => subst h; simp +arith
  case conditionalElse => rcases h with rfl | rfl | rfl <;> simp +arith
  case forHeader => rcases h with rfl | rfl | rfl <;> simp +arith
  all_goals rcases h with rfl | rfl <;> simp +arith

/-- What holds of a node whenever it holds of its children holds of every node. -/
@[elab_as_elim]
theorem induct {motive : Node → Prop}
    (step : ∀ node : Node, (∀ child ∈ node.children, motive child) → motive node) (node : Node) :
    motive node :=
  step node fun child h =>
    have := sizeOf_lt_of_mem_children h
    induct step child
termination_by sizeOf node

/-! ### Heads and labels -/

/-- A node without its subtrees. -/
def head : Node → Head
  | literal value => .literal value
  | identifier name => .identifier name
  | binary operator _ _ => .binary operator
  | assignment name _ => .assignment name
  | declaration name initial => .declaration name initial.isSome
  | sequence _ _ => .sequence
  | conditional _ _ => .conditional
  | conditionalElse _ _ _ => .conditionalElse
  | whileLoop _ _ => .whileLoop
  | forHeader start condition update =>
    .forHeader start.isSome condition.isSome update.isSome
  | forLoop _ _ => .forLoop

/-- How a node is shown. -/
def label (node : Node) : String := node.head.label

/-- Head and children determine a node. -/
theorem eq_of_head_eq {a b : Node} (hhead : a.head = b.head) (hchildren : a.children = b.children) :
    a = b := by
  cases a <;> cases b <;> simp_all [head, children, slots]
  case declaration.declaration =>
    rename_i a _ b
    cases a <;> cases b <;> simp_all
  case forHeader.forHeader =>
    rename_i a1 a2 a3 b1 b2 b3
    cases a1 <;> cases a2 <;> cases a3 <;> cases b1 <;> cases b2 <;> cases b3 <;> simp_all

/-! ### Size -/

/-- The number of nodes in a tree. -/
def size (node : Node) : Nat :=
  node.children.attach.foldr (fun ⟨child, h⟩ total =>
    have := sizeOf_lt_of_mem_children h
    child.size + total) 0 + 1
termination_by sizeOf node

/-- The number of nodes in several trees. -/
def totalSize (nodes : List Node) : Nat :=
  nodes.foldr (fun node total => node.size + total) 0

/-- A tree is its root and the trees below it. -/
theorem size_eq (node : Node) : node.size = totalSize node.children + 1 := by
  rw [size, totalSize]
  simp

@[simp] theorem totalSize_nil : totalSize [] = 0 := rfl

@[simp] theorem totalSize_cons (node : Node) (nodes : List Node) :
    totalSize (node :: nodes) = node.size + totalSize nodes := rfl

/-- A part that is missing does not count. -/
example : (forHeader none (some (literal 1)) none).size = 2 := by
  simp [size_eq, children, slots]

@[simp] theorem totalSize_append (first second : List Node) :
    totalSize (first ++ second) = totalSize first + totalSize second := by
  induction first with
  | nil => simp
  | cons node first ih => simp only [List.cons_append, totalSize_cons, ih]; omega

@[simp] theorem totalSize_reverse (nodes : List Node) :
    totalSize nodes.reverse = totalSize nodes := by
  induction nodes with
  | nil => rfl
  | cons node nodes ih => simp [ih, Nat.add_comm]

/-- Fewer trees hold no more nodes. -/
theorem totalSize_filter_le (keep : Node → Bool) (nodes : List Node) :
    totalSize (nodes.filter keep) ≤ totalSize nodes := by
  induction nodes with
  | nil => simp
  | cons node nodes ih =>
    rw [List.filter_cons]
    split <;> simp only [totalSize_cons] <;> omega

end Node

end Frontend
