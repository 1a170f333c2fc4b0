import Frontend.Proofs.Tree.Walk
import Frontend.Tree.Equality
import Frontend.Tree.Teardown
import Mathlib.Data.List.Perm.Basic

namespace Frontend

/-!
# Nothing deep is given up

However tall a tree is, taking it apart takes every inner node below the root out of its place once,
and gives up nothing that has more than leaves below it.

* `Node.inner` — the inner nodes of a tree, and `Node.innerBelow` those below its root;
* `Pending.after` — the loop after a number of turns;
* `Pending.Accounts` — where the inner nodes of a tree are while it is taken apart, and
  `Pending.Accounts.turn` that a turn keeps the account;
* `releases_of_detached_eq_nil` — the calls made for a node with only leaves below it;
* `teardown_flat` — the loop ends after one turn for every inner node below the root, and no call
  is made deeper than in two others.
-/

namespace Node

/-! ### Inner nodes -/

/-- The inner nodes of a tree, in the order of a walk. -/
def inner (node : Node) : List Node := node.subtrees.filter fun node => !node.isLeaf

/-- The inner nodes below the root of a tree, in the order of a walk. -/
def innerBelow (node : Node) : List Node := node.subtrees.tail.filter fun node => !node.isLeaf

theorem children_of_isLeaf {node : Node} (h : node.isLeaf = true) : node.children = [] := by
  cases node <;> first | rfl | cases h

theorem inner_of_isLeaf {node : Node} (h : node.isLeaf = true) : node.inner = [] := by
  rw [inner, subtrees_eq, children_of_isLeaf h]
  simp [h]

theorem inner_of_not_isLeaf {node : Node} (h : node.isLeaf = false) :
    node.inner = node :: node.innerBelow := by
  rw [inner, innerBelow, subtrees_eq, List.tail_cons, List.filter_cons_of_pos (by simp [h])]

/-- Below the root they are the inner nodes of the children that are taken out. -/
theorem innerBelow_eq (node : Node) : node.innerBelow = node.detached.flatMap inner := by
  rw [innerBelow, subtrees_eq, List.tail_cons, List.filter_flatMap, detached]
  induction node.children with
  | nil => rfl
  | cons child children ih =>
    rw [List.flatMap_cons, ih, List.filter_cons]
    change child.inner ++ _ = _
    cases h : child.isLeaf with
    | true => rw [inner_of_isLeaf h]; rfl
    | false => rfl

end Node

namespace Pending

/-! ### Turns -/

/-- The loop after one more turn; once nothing waits, it stays as it is. -/
def next (pending : Pending) : Pending :=
  match pending.stack with
  | [] => pending
  | node :: others => (pending.turn node others).2

/-- The loop after a number of turns. -/
def after (pending : Pending) : Nat → Pending
  | 0 => pending
  | turns + 1 => (pending.after turns).next

theorem next_of_stack_eq_nil {pending : Pending} (h : pending.stack = []) :
    pending.next = pending := by
  rw [next, h]

theorem next_of_stack_eq_cons {pending : Pending} {node : Node} {others : List Node}
    (h : pending.stack = node :: others) : pending.next = (pending.turn node others).2 := by
  rw [next, h]

/-- The first turn may be told apart. -/
theorem after_succ (pending : Pending) (turns : Nat) :
    pending.after (turns + 1) = pending.next.after turns := by
  induction turns with
  | zero => rfl
  | succ turns ih => rw [after, ih, after]

theorem after_of_stack_eq_nil {pending : Pending} (h : pending.stack = []) (turns : Nat) :
    pending.after turns = pending := by
  induction turns with
  | zero => rfl
  | succ turns ih => rw [after, ih, next_of_stack_eq_nil h]

/-- Once nothing waits, the loop is done. -/
theorem drain_fst {pending : Pending} {turns : Nat} (h : (pending.after turns).stack = [])
    (husks : Array Node) : (drain pending husks).1 = pending.after turns := by
  induction turns generalizing pending husks with
  | zero =>
    rw [drain]
    split
    · rfl
    · rename_i hstack
      rw [after, hstack] at h
      cases h
  | succ turns ih =>
    rw [drain]
    split
    · rename_i hstack
      rw [after_of_stack_eq_nil hstack]
    · rename_i node others hstack
      rw [after_succ, next_of_stack_eq_cons hstack] at h ⊢
      exact ih h _

/-- What is given up in the loop are the husks of the nodes that had their turn. -/
theorem drain_snd (pending : Pending) (husks : Array Node) :
    ∃ later, (drain pending husks).1.popped.toList = pending.popped.toList ++ later ∧
      (drain pending husks).2.toList = husks.toList ++ later.map Node.husk := by
  fun_induction drain pending husks with
  | case1 pending husks hstack => exact ⟨[], by simp⟩
  | case2 pending husks node others hstack hless turn ih =>
    obtain ⟨later, hpopped, hhusks⟩ := ih
    refine ⟨node :: later, ?_, ?_⟩
    · rw [hpopped]
      simp [turn, turn_eq, pop]
    · rw [hhusks]
      simp [turn, turn_eq]

/-! ### Accounts -/

/-- Where the inner nodes below `root` are while it is taken apart. -/
structure Accounts (root : Node) (pending : Pending) : Prop where
  /-- No leaf waits. -/
  stack : ∀ node ∈ pending.stack, node.isLeaf = false
  /-- What has been moved to the stack has been taken from it or is still there. -/
  moved : pending.moved.toList.Perm (pending.popped.toList ++ pending.stack)
  /-- An inner node has been taken from the stack, or it is part of a tree that is there. -/
  popped : (pending.popped.toList ++ pending.stack.flatMap Node.inner).Perm root.innerBelow

namespace Accounts

variable {root : Node} {pending : Pending}

/-- The account that the loop starts with. -/
theorem start (root : Node) : Accounts root (root.detached.foldl push {}) where
  stack node h := by
    rw [stack_foldl_push, List.append_nil, List.mem_reverse, Node.detached, List.mem_filter] at h
    simpa using h.2
  moved := by simp
  popped := by
    simp only [popped_foldl_push, stack_foldl_push, List.append_nil, List.nil_append,
      Node.innerBelow_eq]
    exact (List.reverse_perm _).flatMap_right _

/-- **A turn keeps the account.** -/
theorem turn (h : Accounts root pending) {node : Node} {others : List Node}
    (hstack : pending.stack = node :: others) :
    Accounts root (pending.turn node others).2 := by
  have hinner : node.isLeaf = false := h.stack node (hstack ▸ List.mem_cons_self)
  constructor
  · intro other hother
    rw [stack_turn, List.mem_append, List.mem_reverse] at hother
    rcases hother with hchild | hother
    · rw [Node.detached, List.mem_filter] at hchild
      simpa using hchild.2
    · exact h.stack other (hstack ▸ List.mem_cons_of_mem _ hother)
  · have hwaiting : (others ++ node.detached).Perm (node.detached.reverse ++ others) :=
      List.perm_append_comm.trans ((List.reverse_perm _).symm.append_right others)
    have hmoved := h.moved.append_right node.detached
    rw [hstack, List.append_assoc, List.cons_append] at hmoved
    simpa [turn_eq, pop] using hmoved.trans ((hwaiting.cons node).append_left _)
  · have hwaiting : ((node.detached.reverse ++ others).flatMap Node.inner).Perm
        (node.detached.flatMap Node.inner ++ others.flatMap Node.inner) := by
      rw [List.flatMap_append]
      exact ((List.reverse_perm _).flatMap_right _).append_right _
    have hpopped := h.popped
    rw [hstack, List.flatMap_cons, Node.inner_of_not_isLeaf hinner, Node.innerBelow_eq,
      List.cons_append] at hpopped
    simpa [turn_eq, pop] using ((hwaiting.cons node).append_left _).trans hpopped

/-- What a turn keeps, the loop keeps. -/
theorem after (h : Accounts root pending) (turns : Nat) : Accounts root (pending.after turns) := by
  induction turns with
  | zero => exact h
  | succ turns ih =>
    cases hstack : (pending.after turns).stack with
    | nil => rwa [Pending.after, next_of_stack_eq_nil hstack]
    | cons node others =>
      rw [Pending.after, next_of_stack_eq_cons hstack]
      exact ih.turn hstack

/-- The loop is over exactly when every inner node below the root has had its turn. -/
theorem stack_eq_nil_iff (h : Accounts root pending) :
    pending.stack = [] ↔ root.innerBelow.length ≤ pending.popped.size := by
  have hlength := h.popped.length_eq
  rw [List.length_append, Array.length_toList] at hlength
  constructor
  · intro hstack
    rw [hstack, List.flatMap_nil, List.length_nil] at hlength
    omega
  · intro hle
    cases hstack : pending.stack with
    | nil => rfl
    | cons node others =>
      -- The next node itself is an inner node that has not had its turn.
      have hinner : node.isLeaf = false := h.stack node (hstack ▸ List.mem_cons_self)
      rw [hstack, List.flatMap_cons, Node.inner_of_not_isLeaf hinner, List.cons_append,
        List.length_cons] at hlength
      omega

/-- Every turn is that of one node, till the loop is over. -/
theorem size_popped_after (h : Accounts root pending) (turns : Nat) :
    (pending.after turns).popped.size =
      min (pending.popped.size + turns) root.innerBelow.length := by
  induction turns with
  | zero =>
    have hlength := h.popped.length_eq
    rw [List.length_append, Array.length_toList] at hlength
    rw [Pending.after]
    omega
  | succ turns ih =>
    have hover := (h.after turns).stack_eq_nil_iff
    rw [ih] at hover
    cases hstack : (pending.after turns).stack with
    | nil =>
      have hle := hover.mp hstack
      rw [Pending.after, next_of_stack_eq_nil hstack, ih]
      omega
    | cons node others =>
      have hlt := mt hover.mpr (by simp [hstack])
      rw [Pending.after, next_of_stack_eq_cons hstack, turn_eq, popped_foldl_push, pop,
        Array.size_push, ih]
      omega

end Accounts

end Pending

/-! ### Calls -/

/-- A node with only leaves below it goes at once, and its loop has no turn. -/
theorem takeApart_of_detached_eq_nil {node : Node} (h : node.detached = []) :
    node.takeApart = ({}, #[], node.husk) := by
  have hdrain : drain {} #[] = ({}, #[]) := by
    rw [drain]
  rw [Node.takeApart_eq, h, List.foldl_nil, hdrain]

theorem releases_of_isLeaf {leaf : Node} (h : leaf.isLeaf = true) (nesting : Nat) :
    releases leaf nesting = [⟨nesting, leaf, {}⟩] := by
  have hdetached : leaf.detached = [] := by rw [Node.detached, Node.children_of_isLeaf h]; rfl
  have hchildren : leaf.husk.children = [] := by
    rw [Node.children_husk, Node.children_of_isLeaf h]
    rfl
  rw [releases_eq, Node.leftovers, takeApart_of_detached_eq_nil hdetached]
  simp [hchildren]

/-- The calls made for a node with only leaves below it: one for the node, and one for each of the
    leaves. -/
theorem releases_of_detached_eq_nil {node : Node} (h : node.detached = []) (nesting : Nat) :
    releases node nesting =
      ⟨nesting, node, {}⟩ :: node.husk.children.map fun leaf => ⟨nesting + 1, leaf, {}⟩ := by
  rw [releases_eq, Node.leftovers, takeApart_of_detached_eq_nil h]
  simp only [List.nil_append, List.cons.injEq, true_and]
  rw [List.map_eq_flatMap]
  exact List.flatMap_congr fun leaf hleaf =>
    releases_of_isLeaf (Node.isLeaf_of_mem_children_husk hleaf) _

/-- What goes with a node has only leaves below it. -/
theorem detached_of_mem_leftovers {part node : Node} (h : part ∈ node.leftovers) :
    part.detached = [] := by
  obtain ⟨later, -, hhusks⟩ := Pending.drain_snd (node.detached.foldl Pending.push {}) #[]
  simp only [Node.leftovers, Node.takeApart_eq, hhusks, List.nil_append, List.mem_append,
    List.mem_map] at h
  rcases h with ⟨popped, -, rfl⟩ | hchild
  · exact popped.detached_husk
  · rw [Node.detached, Node.children_of_isLeaf (Node.isLeaf_of_mem_children_husk hchild)]
    rfl

/-- What a call calls for in turn moves nothing, and is nested at most twice. -/
theorem of_mem_releases_leftovers {node : Node} {call : Release}
    (h : call ∈ node.leftovers.flatMap fun part => releases part 1) :
    call.pending = {} ∧ call.nesting ≤ 2 := by
  obtain ⟨part, hpart, hcall⟩ := List.mem_flatMap.mp h
  rw [releases_of_detached_eq_nil (detached_of_mem_leftovers hpart), List.mem_cons,
    List.mem_map] at hcall
  rcases hcall with rfl | ⟨leaf, -, rfl⟩
  · exact ⟨rfl, Nat.le_succ 1⟩
  · exact ⟨rfl, Nat.le_refl 2⟩

/-! ### The whole teardown -/

/-- **However tall a tree is, only flat nodes are given up.**  The loop ends after one turn for each
    inner node below the root, no sooner.  Just these nodes, which a walk comes to on its way, are
    moved to the stack and taken from it, each once.  The husks of the nodes that had their turn are
    given up, and last the husk of the root, and all children of a husk are leaves.  So the calls
    that are made for them, and for these leaves, move nothing to a stack of their own and take
    nothing from it, and none of them is made inside more than two others. -/
theorem teardown_flat (root : Node) :
    let first : Pending := (root.detachChildren.run {}).run.2
    let last : Pending := root.takeApart.1
    (∀ turns, (first.after turns).stack = [] ↔ root.innerBelow.length ≤ turns) ∧
      last = first.after root.innerBelow.length ∧
      (∀ count, ((Walk.start (some root) 0).after count).upcoming? = root.subtrees[count]?) ∧
      last.moved.toList.Perm root.innerBelow ∧ last.popped.toList.Perm root.innerBelow ∧
      teardown (some root) = (last.popped.toList ++ [root]).map Node.husk ∧
      (∀ husk ∈ teardown (some root), ∀ child ∈ husk.children, child.isLeaf = true) ∧
      ∃ nested, releases root 0 = ⟨0, root, last⟩ :: nested ∧
        ∀ call ∈ nested, call.pending.moved = #[] ∧ call.pending.popped = #[] ∧
          call.nesting ≤ 2 := by
  intro first last
  have hfirst : first = root.detached.foldl Pending.push {} := by
    simp only [first, Node.run_detachChildren]
    rfl
  have hstart : first.Accounts root := hfirst ▸ .start root
  have hnone : first.popped = #[] := by rw [hfirst, Pending.popped_foldl_push]
  have hover (turns : Nat) :
      (first.after turns).stack = [] ↔ root.innerBelow.length ≤ turns := by
    rw [(hstart.after turns).stack_eq_nil_iff, hstart.size_popped_after, hnone]
    simp only [Array.size_empty]
    omega
  have hempty := (hover root.innerBelow.length).mpr (Nat.le_refl _)
  have hdrained : last = (drain first #[]).1 := by simp only [last, Node.takeApart_eq, ← hfirst]
  have hlast : last = first.after root.innerBelow.length :=
    hdrained.trans (Pending.drain_fst hempty #[])
  have hend : last.Accounts root := hlast ▸ hstart.after _
  have hstack : last.stack = [] := hlast ▸ hempty
  have hpopped : last.popped.toList.Perm root.innerBelow := by
    simpa [hstack] using hend.popped
  have hmoved : last.moved.toList.Perm root.innerBelow := by
    have hboth := hend.moved
    rw [hstack, List.append_nil] at hboth
    exact hboth.trans hpopped
  have hhusks : teardown (some root) = (last.popped.toList ++ [root]).map Node.husk := by
    obtain ⟨later, hlater, hgiven⟩ := Pending.drain_snd first #[]
    rw [hnone] at hlater
    simp only [teardown, Node.takeApart_eq, ← hfirst, Array.toList_push, hgiven, hdrained, hlater,
      List.nil_append, List.map_append, List.map_cons, List.map_nil]
  refine ⟨hover, hlast, Walk.upcoming?_after root 0, hmoved, hpopped, hhusks, ?_, _,
    releases_eq root 0, fun call hcall => ?_⟩
  · intro husk hhusk child hchild
    rw [hhusks] at hhusk
    obtain ⟨node, -, rfl⟩ := List.mem_map.mp hhusk
    exact Node.isLeaf_of_mem_children_husk hchild
  · obtain ⟨hpending, hnesting⟩ := of_mem_releases_leftovers hcall
    rw [hpending]
    exact ⟨rfl, rfl, hnesting⟩

/-- Three nodes have their turn in the teardown of this loop, and no call is nested in three. -/
theorem teardown_flat_whileLoop :
    let root : Node := .whileLoop (.identifier "n")
      (.sequence (.assignment "n" (.identifier "m")) (.declaration "t" none))
    root.takeApart.1.popped.toList.length = 3 ∧
      (∀ husk ∈ teardown (some root), ∀ child ∈ husk.children, child.isLeaf = true) ∧
      ∀ call ∈ releases root 0, call.nesting < 3 := by
  intro root
  have hinner : root.innerBelow.length = 3 := by
    simp [root, Node.innerBelow, Node.subtrees_eq, Node.children, Node.slots, Node.isLeaf]
  obtain ⟨-, -, -, -, hpopped, -, hflat, nested, hcalls, hnested⟩ := teardown_flat root
  refine ⟨hpopped.length_eq.trans hinner, hflat, ?_⟩
  rw [hcalls, List.forall_mem_cons]
  exact ⟨by decide, fun call hcall => Nat.lt_succ_of_le (hnested call hcall).2.2⟩

/-- The root is given up last. -/
example :
    teardown (some (.whileLoop (.identifier "n") (.assignment "n" (.literal 1)))) =
      [.assignment "n" (.literal 1), .whileLoop (.identifier "n") (.literal 0)] := by
  decide +kernel

end Frontend
