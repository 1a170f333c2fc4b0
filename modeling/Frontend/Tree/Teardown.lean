import Frontend.Tree.Basic

namespace Frontend

/-!
# Taking a tree apart

A tree is given up node by node, never deeper than one level at a time: a node's inner children are
taken out of it before it goes, and wait on a stack for their turn.

* `Pending` — the nodes that wait, with all that was ever moved there and taken from there;
* `Node.visitChildren` — the subtrees of a node, changed where they stand;
* `Node.detachChildren` — takes the inner children out of a node: `Node.detached` are the children
  that are taken, and `Node.husk` is what is left (`Node.run_detachChildren`);
* `Pending.turn` — the turn of the next node that waits, and `drain` all turns, till none waits;
* `teardown` — the husks of a tree in the order in which they are given up;
* `releases` — all calls that giving up a tree makes, each inside the one that makes it.

A husk has only leaves below it (`isLeaf_of_mem_children_husk`).
-/

/-- The inner nodes that wait for their turn. -/
structure Pending where
  /-- Those that wait, the next one first. -/
  stack : List Node := []
  /-- All that have been moved to the stack, in that order. -/
  moved : Array Node := #[]
  /-- All that have been taken from the stack, in that order. -/
  popped : Array Node := #[]

namespace Pending

/-- Moves a node to the stack. -/
def push (pending : Pending) (node : Node) : Pending :=
  { pending with stack := node :: pending.stack, moved := pending.moved.push node }

/-- Takes the next node from the stack, which leaves the others. -/
def pop (pending : Pending) (node : Node) (others : List Node) : Pending :=
  { pending with stack := others, popped := pending.popped.push node }

/-- The node pushed last comes to lie on top. -/
@[simp] theorem stack_foldl_push (pending : Pending) (nodes : List Node) :
    (nodes.foldl push pending).stack = nodes.reverse ++ pending.stack := by
  induction nodes generalizing pending with
  | nil => rfl
  | cons node nodes ih => simp [ih, push]

@[simp] theorem moved_foldl_push (pending : Pending) (nodes : List Node) :
    (nodes.foldl push pending).moved.toList = pending.moved.toList ++ nodes := by
  induction nodes generalizing pending with
  | nil => simp
  | cons node nodes ih => simp [ih, push]

@[simp] theorem popped_foldl_push (pending : Pending) (nodes : List Node) :
    (nodes.foldl push pending).popped = pending.popped := by
  induction nodes generalizing pending with
  | nil => rfl
  | cons node nodes ih => rw [List.foldl_cons, ih, push]

end Pending

namespace Node

/-- Whether a node is of a kind that has no subtrees. -/
def isLeaf : Node → Bool
  | literal _ | identifier _ => true
  | _ => false

/-! ### Taking children out -/

/-- Visits the subtrees of a node where they stand, from left to right.  Each is replaced by what
    the visit makes of it; a part that is missing is not visited. -/
def visitChildren {m : Type → Type} [Monad m] (visit : Node → m Node) : Node → m Node
  | literal value => return literal value
  | identifier name => return identifier name
  | binary operator left right => return binary operator (← visit left) (← visit right)
  | assignment name value => return assignment name (← visit value)
  | declaration name initial => return declaration name (← initial.mapM visit)
  | sequence first rest => return sequence (← visit first) (← visit rest)
  | conditional condition consequence =>
    return conditional (← visit condition) (← visit consequence)
  | conditionalElse condition consequence alternative =>
    return conditionalElse (← visit condition) (← visit consequence) (← visit alternative)
  | whileLoop condition body => return whileLoop (← visit condition) (← visit body)
  | forHeader start condition update =>
    return forHeader (← start.mapM visit) (← condition.mapM visit) (← update.mapM visit)
  | forLoop header body => return forLoop (← visit header) (← visit body)

/-- Moves a child to the stack and leaves a literal in its place; a leaf stays. -/
def detach (child : Node) : StateM Pending Node := do
  if child.isLeaf then
    return child
  else
    modify (·.push child)
    return literal 0

/-- Takes the inner children out of a node. -/
def detachChildren : Node → StateM Pending Node := visitChildren detach

/-- The children that are taken out of a node, from left to right: those that are no leaves. -/
def detached (node : Node) : List Node :=
  node.children.filter fun child => !child.isLeaf

/-- What stands in the place of a child once the inner ones have been taken out. -/
def stub (node : Node) : Node :=
  if node.isLeaf then node else literal 0

/-- A node after its inner children have been taken out. -/
def husk : Node → Node
  | literal value => literal value
  | identifier name => identifier name
  | binary operator left right => binary operator left.stub right.stub
  | assignment name value => assignment name value.stub
  | declaration name initial => declaration name (initial.map stub)
  | sequence first rest => sequence first.stub rest.stub
  | conditional condition consequence => conditional condition.stub consequence.stub
  | conditionalElse condition consequence alternative =>
    conditionalElse condition.stub consequence.stub alternative.stub
  | whileLoop condition body => whileLoop condition.stub body.stub
  | forHeader start condition update =>
    forHeader (start.map stub) (condition.map stub) (update.map stub)
  | forLoop header body => forLoop header.stub body.stub

/-- A child is taken out unless it is a leaf. -/
theorem run_detach (child : Node) (pending : Pending) :
    child.detach.run pending = pure (child.stub,
      ([child].filter fun child => !child.isLeaf).foldl Pending.push pending) := by
  unfold detach stub
  cases h : child.isLeaf with
  | true =>
    rw [if_pos rfl, if_pos rfl, List.filter_cons_of_neg (by simp [h])]
    rfl
  | false =>
    rw [if_neg Bool.false_ne_true, if_neg Bool.false_ne_true, List.filter_cons_of_pos (by simp [h])]
    rfl

/-- A part that is missing is not visited. -/
theorem run_mapM_detach (part : Option Node) (pending : Pending) :
    (part.mapM detach).run pending =
      pure (part.map stub,
        (part.toList.filter fun child => !child.isLeaf).foldl Pending.push pending) := by
  cases part with
  | none => rfl
  | some child => simp [run_detach]

/-- The children are the parts that are there. -/
theorem children_eq_flatMap (node : Node) : node.children = node.slots.flatMap Option.toList := by
  unfold children
  induction node.slots with
  | nil => rfl
  | cons slot slots ih =>
    cases slot with
    | none => exact ih
    | some child => exact congrArg (child :: ·) ih

/-- Of the children, those that are no leaves are taken out, from left to right. -/
theorem run_detachChildren (node : Node) (pending : Pending) :
    node.detachChildren.run pending =
      pure (node.husk, node.detached.foldl Pending.push pending) := by
  rw [detached, children_eq_flatMap]
  cases node <;> simp [detachChildren, visitChildren, run_detach, run_mapM_detach, husk, slots,
    ← List.foldl_append, ← List.filter_append]

/-! ### Husks -/

theorem size_lt_of_mem_children {child node : Node} (h : child ∈ node.children) :
    child.size < node.size := by
  obtain ⟨before, after, hchildren⟩ := List.append_of_mem h
  rw [size_eq node, hchildren, totalSize_append, totalSize_cons]
  omega

@[simp] theorem isLeaf_stub (node : Node) : node.stub.isLeaf = true := by
  unfold stub
  split
  · assumption
  · rfl

/-- Taking children out touches nothing else. -/
theorem slots_husk (node : Node) : node.husk.slots = node.slots.map (Option.map stub) := by
  cases node <;> rfl

theorem children_husk (node : Node) : node.husk.children = node.children.map stub := by
  rw [children, slots_husk, children, List.filterMap_map, List.map_filterMap]
  rfl

/-- Below a husk there are only leaves. -/
theorem isLeaf_of_mem_children_husk {child node : Node} (h : child ∈ node.husk.children) :
    child.isLeaf = true := by
  rw [children_husk] at h
  obtain ⟨taken, -, rfl⟩ := List.mem_map.mp h
  exact isLeaf_stub taken

/-- From a husk there is nothing more to take out. -/
theorem detached_husk (node : Node) : node.husk.detached = [] := by
  rw [detached, List.filter_eq_nil_iff]
  intro child h
  simp [isLeaf_of_mem_children_husk h]

theorem size_stub_le (node : Node) : node.stub.size ≤ node.size := by
  unfold stub
  split
  · exact Nat.le_refl _
  · rw [size_eq, size_eq]
    simp [children, slots]

theorem totalSize_map_stub_le (nodes : List Node) :
    totalSize (nodes.map stub) ≤ totalSize nodes := by
  induction nodes with
  | nil => exact Nat.le_refl _
  | cons node nodes ih =>
    have := size_stub_le node
    rw [List.map_cons, totalSize_cons, totalSize_cons]
    omega

/-- A husk is no larger than its node. -/
theorem size_husk_le (node : Node) : node.husk.size ≤ node.size := by
  rw [size_eq, size_eq, children_husk]
  exact Nat.add_le_add_right (totalSize_map_stub_le _) 1

/-- What is taken out is smaller than the node, all together. -/
theorem totalSize_detached_lt (node : Node) : totalSize node.detached < node.size := by
  rw [size_eq]
  exact Nat.lt_succ_of_le (totalSize_filter_le _ _)

end Node

/-! ### The loop -/

namespace Pending

/-- The number of nodes in the trees that wait. -/
def size (pending : Pending) : Nat := Node.totalSize pending.stack

/-- The turn of the next node: it is taken from the stack, and its inner children are moved there.
    What is left of the node is given up. -/
def turn (pending : Pending) (node : Node) (others : List Node) : Node × Pending :=
  (node.detachChildren.run (pending.pop node others)).run

theorem turn_eq (pending : Pending) (node : Node) (others : List Node) :
    pending.turn node others = (node.husk, node.detached.foldl push (pending.pop node others)) := by
  rw [turn, Node.run_detachChildren]
  rfl

@[simp] theorem stack_turn (pending : Pending) (node : Node) (others : List Node) :
    (pending.turn node others).2.stack = node.detached.reverse ++ others := by
  rw [turn_eq, stack_foldl_push, pop]

/-- A turn leaves fewer nodes. -/
theorem size_turn_lt {pending : Pending} {node : Node} {others : List Node}
    (h : pending.stack = node :: others) : (pending.turn node others).2.size < pending.size := by
  have := node.totalSize_detached_lt
  simp only [size, stack_turn, h, Node.totalSize_append, Node.totalSize_reverse,
    Node.totalSize_cons]
  omega

end Pending

/-- All turns, till no node waits any more, and what they give up, in that order. -/
def drain (pending : Pending) (husks : Array Node) : Pending × Array Node :=
  match h : pending.stack with
  | [] => (pending, husks)
  | node :: others =>
    have := Pending.size_turn_lt h
    let turn := pending.turn node others
    drain turn.2 (husks.push turn.1)
termination_by pending.size

/-- What is given up is a part of what waited. -/
theorem mem_drain {pending : Pending} {husks : Array Node} {husk : Node}
    (h : husk ∈ (drain pending husks).2) : husk ∈ husks ∨ husk.size ≤ pending.size := by
  fun_induction drain pending husks with
  | case1 => exact .inl h
  | case2 pending husks node others hstack hless turn ih =>
    rcases ih h with hmem | hle
    · rcases Array.mem_push.mp hmem with hmem | rfl
      · exact .inl hmem
      · refine .inr ?_
        have := node.size_husk_le
        simp only [turn, Pending.turn_eq, Pending.size, hstack, Node.totalSize_cons]
        omega
    · exact .inr (Nat.le_trans hle (Nat.le_of_lt hless))

/-! ### Whole trees -/

/-- Takes the nodes below a node apart: what waited for its turn meanwhile, the husks given up in
    the loop, and the husk of the node itself. -/
def Node.takeApart (node : Node) : Pending × Array Node × Node :=
  let (husk, pending) := (node.detachChildren.run {}).run
  let (pending, husks) := drain pending #[]
  (pending, husks, husk)

theorem Node.takeApart_eq (node : Node) :
    node.takeApart =
      ((drain (node.detached.foldl Pending.push {}) #[]).1,
        (drain (node.detached.foldl Pending.push {}) #[]).2, node.husk) := by
  rw [takeApart, run_detachChildren]
  rfl

/-- The husks of a tree in the order in which they are given up, the root last. -/
def teardown : Option Node → List Node
  | none => []
  | some root =>
    let (_, husks, husk) := root.takeApart
    (husks.push husk).toList

/-- The nodes that go with a node: the husks given up in its loop, and then what is below its own
    husk. -/
def Node.leftovers (node : Node) : List Node :=
  let (_, husks, husk) := node.takeApart
  husks.toList ++ husk.children

theorem Node.size_lt_of_mem_leftovers {part node : Node} (h : part ∈ node.leftovers) :
    part.size < node.size := by
  simp only [leftovers, takeApart_eq] at h
  rcases List.mem_append.mp h with hhusk | hchild
  · have hless := node.totalSize_detached_lt
    rcases mem_drain (Array.mem_toList_iff.mp hhusk) with hnone | hle
    · simp at hnone
    · simp only [Pending.size, Pending.stack_foldl_push, List.append_nil,
        totalSize_reverse] at hle
      omega
  · have hless := size_lt_of_mem_children hchild
    exact Nat.lt_of_lt_of_le hless (size_husk_le node)

/-- A call that gives up a node. -/
structure Release where
  /-- In how many other calls it is made. -/
  nesting : Nat
  /-- The node, as the call finds it. -/
  node : Node
  /-- The nodes that waited for their turn in this call, once none does any more. -/
  pending : Pending

/-- All calls that giving up a node makes, from inside a number of others: its own, and those for
    the nodes that go with it. -/
def releases (node : Node) (nesting : Nat) : List Release :=
  ⟨nesting, node, node.takeApart.1⟩ :: node.leftovers.attach.flatMap fun ⟨part, h⟩ =>
    have := Node.size_lt_of_mem_leftovers h
    releases part (nesting + 1)
termination_by node.size

theorem releases_eq (node : Node) (nesting : Nat) :
    releases node nesting =
      ⟨nesting, node, node.takeApart.1⟩ ::
        node.leftovers.flatMap fun part => releases part (nesting + 1) := by
  rw [releases]
  simp

end Frontend
