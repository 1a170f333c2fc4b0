import Frontend.Tree.Walk
import Mathlib.Data.List.Basic

namespace Frontend

/-!
# Walks against outlines

A walk with its stack gives the lines that the recursion over the tree gives, and at any time it
knows all lines that are left.

* `Node.subtrees` — all nodes of a tree, each with what is below it, a node before its children;
* `Walk.call` — one call for a line, `Walk.after` the walk after several, and `Walk.taken` the lines
  that they gave;
* `Walk.lines_eq_outlines` — the lines that are left are the outlines of the trees on the stack;
* `Walk.lines_after` — every call takes one of them away, the first;
* `Walk.upcoming?_after` — the lines belong to the nodes in the order of `Node.subtrees`;
* `Node.walk_eq_outline` — so a walk yields an outline, however far it has come.
-/

namespace Node

/-! ### Subtrees -/

/-- All nodes of a tree, each with what is below it: a node before its children, and the children
    from left to right. -/
def subtrees (node : Node) : List Node :=
  node :: node.children.attach.flatMap fun ⟨child, h⟩ =>
    have := sizeOf_lt_of_mem_children h
    child.subtrees
termination_by sizeOf node

theorem subtrees_eq (node : Node) : node.subtrees = node :: node.children.flatMap subtrees := by
  rw [subtrees]
  simp

theorem length_flatMap_subtrees {nodes : List Node}
    (h : ∀ node ∈ nodes, node.subtrees.length = node.size) :
    (nodes.flatMap subtrees).length = totalSize nodes := by
  induction nodes with
  | nil => rfl
  | cons node nodes ih =>
    rw [List.forall_mem_cons] at h
    rw [List.flatMap_cons, List.length_append, totalSize_cons, h.1, ih h.2]

/-- There are as many as the tree has nodes. -/
theorem length_subtrees (node : Node) : node.subtrees.length = node.size := by
  induction node using induct with
  | step node ih => rw [subtrees_eq, List.length_cons, length_flatMap_subtrees ih, size_eq]

/-- An outline has a line for every node. -/
theorem map_label_outline (node : Node) (depth : Nat) :
    (node.outline depth).map Line.label = node.subtrees.map label := by
  induction node using induct generalizing depth with
  | step node ih =>
    rw [outline_eq, subtrees_eq, List.map_cons, List.map_cons, List.map_flatMap, List.map_flatMap]
    congr 1
    exact List.flatMap_congr fun child hchild => ih child hchild (depth + 1)

theorem length_outline (node : Node) (depth : Nat) :
    (node.outline depth).length = node.size := by
  have hlength := congrArg List.length (map_label_outline node depth)
  rwa [List.length_map, List.length_map, length_subtrees] at hlength

end Node

namespace Walk

/-! ### Calls -/

/-- One call for a line: the text of the line, and the walk that the call leaves.  A walk that is
    over gives nothing and stays as it is. -/
def call (walk : Walk) : Option String × Walk :=
  match walk.next? with
  | none => (none, walk)
  | some (line, rest) => (some line.text, rest)

/-- The walk after a number of calls. -/
def after (walk : Walk) : Nat → Walk
  | 0 => walk
  | count + 1 => (walk.after count).call.2

/-- The lines that a number of calls gave. -/
def taken (walk : Walk) (count : Nat) : List String :=
  (List.range count).filterMap fun earlier => (walk.after earlier).call.1

@[simp] theorem call_nil : call ⟨[]⟩ = (none, ⟨[]⟩) := rfl

@[simp] theorem call_cons (node : Node) (depth : Nat) (rest : List (Node × Nat)) :
    call ⟨(node, depth) :: rest⟩ =
      (some (Line.text ⟨depth, node.label⟩),
        ⟨node.children.map (fun child => (child, depth + 1)) ++ rest⟩) := by
  rw [call, next?_cons]

/-! ### The lines that are left -/

/-- **The lines to come are the outlines of the trees on the stack**, from the top down. -/
theorem lines_eq_outlines (walk : Walk) :
    walk.lines = walk.pending.flatMap fun (node, depth) => node.outline depth := by
  -- Induction on the number of lines, since the next call works on a stack of other trees.
  induction hweight : walk.weight generalizing walk with
  | zero =>
    obtain ⟨_ | ⟨⟨node, depth⟩, rest⟩⟩ := walk
    · rw [lines_eq]
      rfl
    · have := weight_of_next? (next?_cons node depth rest)
      omega
  | succ weight ih =>
    obtain ⟨_ | ⟨⟨node, depth⟩, rest⟩⟩ := walk
    · cases hweight
    · have hnext := weight_of_next? (next?_cons node depth rest)
      rw [lines_eq, next?_cons]
      dsimp only
      rw [ih _ (by omega), List.flatMap_append, List.flatMap_map, List.flatMap_cons,
        Node.outline_eq, List.cons_append]

/-- A call gives the first of them. -/
theorem call_fst (walk : Walk) : walk.call.1 = walk.lines.head?.map Line.text := by
  rw [lines_eq, call]
  cases walk.next? <;> rfl

/-- A call leaves the others. -/
theorem lines_call (walk : Walk) : walk.call.2.lines = walk.lines.tail := by
  rw [lines_eq walk, call]
  cases h : walk.next? with
  | none =>
    show walk.lines = []
    rw [lines_eq, h]
  | some result => rfl

/-- Every call takes one line away. -/
theorem lines_after (walk : Walk) (count : Nat) :
    (walk.after count).lines = walk.lines.drop count := by
  induction count with
  | zero => rfl
  | succ count ih => rw [after, lines_call, ih, List.tail_drop]

/-- The calls give the lines one by one, and nothing from then on. -/
theorem call_after (walk : Walk) (count : Nat) :
    (walk.after count).call.1 = walk.lines[count]?.map Line.text := by
  rw [call_fst, lines_after, List.head?_drop]

/-- The first calls give the first lines. -/
theorem taken_eq (walk : Walk) (count : Nat) :
    walk.taken count = (walk.lines.take count).map Line.text := by
  unfold taken
  induction count with
  | zero => rfl
  | succ count ih =>
    rw [List.range_succ, List.filterMap_append, ih, List.take_add_one, List.map_append,
      List.filterMap_cons, List.filterMap_nil, call_after]
    cases walk.lines[count]? <;> rfl

/-! ### The nodes that are left -/

/-- The node whose line comes next. -/
def upcoming? (walk : Walk) : Option Node := walk.pending.head?.map Prod.fst

/-- The nodes whose lines are still to come. -/
def nodes (walk : Walk) : List Node := walk.pending.flatMap fun entry => entry.1.subtrees

theorem upcoming?_eq (walk : Walk) : walk.upcoming? = walk.nodes.head? := by
  obtain ⟨_ | ⟨⟨node, depth⟩, rest⟩⟩ := walk
  · rfl
  · rw [nodes, List.flatMap_cons, Node.subtrees_eq]
    rfl

theorem nodes_call (walk : Walk) : walk.call.2.nodes = walk.nodes.tail := by
  obtain ⟨_ | ⟨⟨node, depth⟩, rest⟩⟩ := walk
  · rfl
  · rw [call_cons, nodes, nodes, List.flatMap_append, List.flatMap_map, List.flatMap_cons,
      Node.subtrees_eq, List.cons_append, List.tail_cons]

/-- **The calls come to the nodes of a tree one by one**, a node before its children. -/
theorem upcoming?_after (node : Node) (depth count : Nat) :
    ((start (some node) depth).after count).upcoming? = node.subtrees[count]? := by
  have hnodes : ((start (some node) depth).after count).nodes = node.subtrees.drop count := by
    induction count with
    | zero => simp [after, start, nodes]
    | succ count ih => rw [after, nodes_call, ih, List.tail_drop]
  rw [upcoming?_eq, hnodes, List.head?_drop]

end Walk

namespace Node

/-- A whole walk yields the outline. -/
theorem lines_start (node : Node) (depth : Nat) :
    (Walk.start (some node) depth).lines = node.outline depth := by
  rw [Walk.lines_eq_outlines]
  simp [Walk.start]

theorem render_eq (node : Node) (depth : Nat) :
    node.render depth = (node.outline depth).map Line.text := by
  rw [render, lines_start]

/-- Missing parts of a header have no line. -/
example :
    (forLoop (forHeader (some (declaration "i" (some (literal 0)))) none
        (some (assignment "i" (identifier "n")))) (declaration "t" none)).outline 1 =
      [⟨1, "ForLoop"⟩, ⟨2, "ForHeader"⟩, ⟨3, "Declaration(i)"⟩, ⟨4, "Literal(0)"⟩,
        ⟨3, "Assignment(i)"⟩, ⟨4, "Identifier(n)"⟩, ⟨2, "Declaration(t)"⟩] := by
  decide +kernel

end Node

end Frontend
