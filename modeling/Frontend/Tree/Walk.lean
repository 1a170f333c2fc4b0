import Frontend.Tree.Basic

namespace Frontend

/-!
# Walking a tree

A tree is shown as one line per node, a node before its children and the children from left to
right, each two spaces deeper than the node.

* `Line` — one line, as a depth and a label, and `Line.text` its text;
* `Node.outline` — all lines of a tree, by recursion;
* `Walk` — the same lines one at a time, from a stack of the trees still to be shown;
* `Walk.next?` — the next line, and `Walk.lines` all that are left.

The walk keeps no place in a tree but its stack, so its room does not depend on recursion, however
tall the tree is.
-/

/-- One line of a shown tree. -/
structure Line where
  depth : Nat
  label : String
  deriving DecidableEq

/-- The line as text: two spaces for every level of depth, then the label. -/
def Line.text (line : Line) : String :=
  String.ofList (List.replicate (2 * line.depth) ' ') ++ line.label

/-- The lines of a tree whose root stands at `depth`. -/
def Node.outline (node : Node) (depth : Nat) : List Line :=
  ⟨depth, node.label⟩ :: node.children.attach.flatMap fun ⟨child, h⟩ =>
    have := Node.sizeOf_lt_of_mem_children h
    child.outline (depth + 1)
termination_by sizeOf node

theorem Node.outline_eq (node : Node) (depth : Nat) :
    node.outline depth =
      ⟨depth, node.label⟩ :: node.children.flatMap fun child => child.outline (depth + 1) := by
  rw [Node.outline]
  simp

/-! ### One line at a time -/

/-- A walk under way: the trees still to be shown and the depths of their roots, the next one
    first. -/
structure Walk where
  pending : List (Node × Nat)

namespace Walk

/-- The walk over a tree whose root stands at `depth`; over no tree, a walk that is over. -/
def start (node? : Option Node) (depth : Nat) : Walk :=
  ⟨node?.toList.map fun node => (node, depth)⟩

/-- Puts the trees at some places on a stack, the last of them first, so that the first comes to lie
    on top.  A place left open puts nothing there. -/
def push (depth : Nat) (slots : List (Option Node)) (pending : List (Node × Nat)) :
    List (Node × Nat) :=
  (slots.reverse.filterMap id).foldl (fun pending node => (node, depth) :: pending) pending

/-- From the top down, the trees lie on the stack as they stand in their places. -/
theorem push_eq (depth : Nat) (slots : List (Option Node)) (pending : List (Node × Nat)) :
    push depth slots pending =
      (slots.filterMap id).map (fun node => (node, depth)) ++ pending := by
  rw [push, List.filterMap_reverse, List.foldl_reverse, List.foldr_cons_eq_append]

/-- The next line, and the walk after it: the node on top of the stack has made way for its
    children. -/
def next? (walk : Walk) : Option (Line × Walk) :=
  match walk.pending with
  | [] => none
  | (node, depth) :: rest => some (⟨depth, node.label⟩, ⟨push (depth + 1) node.slots rest⟩)

@[simp] theorem next?_nil : next? ⟨[]⟩ = none := rfl

/-- The children come before what was pending already. -/
@[simp] theorem next?_cons (node : Node) (depth : Nat) (rest : List (Node × Nat)) :
    next? ⟨(node, depth) :: rest⟩ =
      some (⟨depth, node.label⟩,
        ⟨node.children.map (fun child => (child, depth + 1)) ++ rest⟩) := by
  simp only [next?, push_eq, Node.children]

/-- The number of lines still to come. -/
def weight (walk : Walk) : Nat :=
  Node.totalSize (walk.pending.map Prod.fst)

theorem weight_of_next? {walk rest : Walk} {line : Line} (h : walk.next? = some (line, rest)) :
    walk.weight = rest.weight + 1 := by
  obtain ⟨_ | ⟨⟨node, depth⟩, pending⟩⟩ := walk
  · simp at h
  · simp only [next?_cons, Option.some.injEq, Prod.mk.injEq] at h
    obtain ⟨-, rfl⟩ := h
    have hchildren : (node.children.map (fun child => (child, depth + 1))).map Prod.fst =
        node.children := by simp [Function.comp_def]
    simp only [weight, List.map_cons, Node.totalSize_cons, List.map_append,
      Node.totalSize_append, hchildren, Node.size_eq node]
    omega

/-- Moves the lines still to come to `lines`, one after the other. -/
def drainTo (walk : Walk) (lines : Array Line) : Array Line :=
  match h : walk.next? with
  | none => lines
  | some (line, rest) =>
    have := weight_of_next? h
    rest.drainTo (lines.push line)
termination_by walk.weight

theorem toList_drainTo (walk : Walk) (lines : Array Line) :
    (walk.drainTo lines).toList = lines.toList ++ (walk.drainTo #[]).toList := by
  induction hweight : walk.weight generalizing walk lines with
  | zero =>
    rw [drainTo, drainTo]
    split
    · simp
    · rename_i line rest h
      have := weight_of_next? h
      omega
  | succ weight ih =>
    rw [drainTo, drainTo]
    split
    · simp
    · rename_i line rest h
      have := weight_of_next? h
      rw [ih rest (lines.push line) (by omega), ih rest (#[].push line) (by omega)]
      simp

/-- The lines still to come. -/
def lines (walk : Walk) : List Line := (walk.drainTo #[]).toList

/-- The lines to come are the next one and those of the walk after it. -/
theorem lines_eq (walk : Walk) :
    walk.lines = match walk.next? with
      | none => []
      | some (line, rest) => line :: rest.lines := by
  unfold lines
  rw [drainTo]
  split <;> rename_i h <;> simp only [h]
  · rename_i line rest
    rw [toList_drainTo]
    rfl

end Walk

/-! ### Whole trees -/

/-- The lines of a tree whose root stands at `depth`, as texts. -/
def Node.render (node : Node) (depth : Nat) : List String :=
  (Walk.start (some node) depth).lines.map Line.text

/-- A tree as one text, every line ended. -/
def Node.display (node : Node) : String :=
  String.join ((node.render 0).map (· ++ "\n"))

end Frontend
