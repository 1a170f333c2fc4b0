import Frontend.Tree.Shape
import Mathlib.Data.List.Basic

namespace Frontend

/-!
# Trees built anew

A node is built from its kind and its own subtrees, and from nothing else.

* `Kind.use` — whether a kind needs a subtree at a place, takes one or refuses it, and `Kind.Fits`
  the subtrees that it can be built from;
* `Node.kind?` — the kind that a node can be built from, and `Kind.arrange` the places that its
  subtrees then have;
* `Node.make_eq_ok_iff` — what a node is made from are its kind and its subtrees so arranged;
* `Node.make_eq_error_iff` — when nothing is made, and what is said then;
* `Node.rebuild` — a tree built anew from the leaves up, and `Node.rebuild_eq` the same tree again;
* `Node.make_outcome` — all of this together.
-/

/-! ### What a kind asks for -/

/-- What a kind has to say about a subtree at some place. -/
inductive Use where
  | needed
  | optional
  | refused
  deriving DecidableEq

/-- Whether there may be a subtree, or none. -/
def Use.Allows : Use → Option Node → Prop
  | needed, subtree => subtree.isSome
  | optional, _ => True
  | refused, subtree => subtree.isNone

/-- What stands at a place. -/
def Slot.among {α : Type} (left middle right : α) : Slot → α
  | .left => left
  | .middle => middle
  | .right => right

namespace Kind

/-- What a kind has to say about its places: a header takes what there is, a conditional with an
    alternative needs all three, and the other kinds need two and refuse a third between them. -/
def use : Kind → Slot → Use
  | forHeader, _ => .optional
  | conditionalElse, _ => .needed
  | _, .middle => .refused
  | _, _ => .needed

/-- Subtrees that a node of a kind can be built from. -/
def Fits (kind : Kind) (left middle right : Option Node) : Prop :=
  ∀ slot : Slot, (kind.use slot).Allows (slot.among left middle right)

/-- Whether a subtree that a kind needs is not there. -/
def lacks (kind : Kind) (left middle right : Option Node) (slot : Slot) : Bool :=
  kind.use slot == .needed && (slot.among left middle right).isNone

/-- What is wrong with subtrees: one in the middle that the kind refuses, or else the first from
    left to right that it needs and that is not there. -/
def misfit? (kind : Kind) (left middle right : Option Node) : Option ShapeError :=
  if kind.use .middle = .refused ∧ middle.isSome then some (.unexpected kind .middle)
  else ([Slot.left, .middle, .right].find? (kind.lacks left middle right)).map (.missing kind)

/-- The subtrees left, in the middle and right, from those that a node has at its own places: the
    first stands left and the last right, and none between them unless the kind has a use for it. -/
def arrange (kind : Kind) : List (Option Node) → Option Node × Option Node × Option Node
  | [first, second, third] =>
    if kind.use .middle = .refused then (first, none, second) else (first, second, third)
  | _ => (none, none, none)

end Kind

namespace Node

/-- The kind that a node can be built from.  A node that carries a value or a name has none. -/
def kind? : Node → Option Kind
  | literal _ | identifier _ | assignment _ _ | declaration _ _ => none
  | binary operator _ _ => some (.binary operator)
  | sequence _ _ => some .sequence
  | conditional _ _ => some .conditional
  | conditionalElse _ _ _ => some .conditionalElse
  | whileLoop _ _ => some .whileLoop
  | forHeader _ _ _ => some .forHeader
  | forLoop _ _ => some .forLoop

/-- A node is shown by the name of its kind. -/
theorem label_of_kind? {node : Node} {kind : Kind} (h : node.kind? = some kind) :
    node.label = kind.name := by
  cases node <;> cases h <;> rfl

/-- Arranging the subtrees of a node keeps them all, and their order. -/
theorem children_of_arrange {node : Node} {kind : Kind} {left middle right : Option Node}
    (hkind : node.kind? = some kind) (harrange : kind.arrange node.slots = (left, middle, right)) :
    node.children = [left, middle, right].filterMap id := by
  cases node <;> cases hkind <;> cases harrange <;> rfl

/-! ### Making a node -/

/-- Where two subtrees are needed and none between them, these two are what a node is built of. -/
theorem pair_eq_ok_iff {kind : Kind} {build : Node → Node → Node}
    {left middle right : Option Node} {node : Node} :
    pair kind build left middle right = .ok node ↔
      middle = none ∧ ∃ first second, left = some first ∧ right = some second ∧
        build first second = node := by
  cases middle with
  | some _ => simp [pair]
  | none =>
    cases left <;> cases right <;> simp [pair, required, bind, Except.bind, pure, Except.pure]

/-- **A node is made from its kind and its subtrees**, and from no others. -/
theorem make_eq_ok_iff {kind : Kind} {left middle right : Option Node} {node : Node} :
    make kind left middle right = .ok node ↔
      node.kind? = some kind ∧ kind.arrange node.slots = (left, middle, right) := by
  constructor
  · intro h
    cases kind with
    | conditionalElse =>
      cases left <;> cases middle <;> cases right <;> cases h
      exact ⟨rfl, rfl⟩
    | forHeader =>
      cases h
      exact ⟨rfl, rfl⟩
    | _ =>
      obtain ⟨rfl, first, second, rfl, rfl, rfl⟩ := pair_eq_ok_iff.mp h
      exact ⟨rfl, rfl⟩
  · rintro ⟨hkind, harrange⟩
    cases node <;> cases hkind <;> cases harrange <;> rfl

/-- A node is made just from subtrees that fit its kind. -/
theorem exists_make_eq_ok_iff {kind : Kind} {left middle right : Option Node} :
    (∃ node, make kind left middle right = .ok node) ↔ kind.Fits left middle right := by
  constructor
  · rintro ⟨node, h⟩ slot
    obtain ⟨hkind, harrange⟩ := make_eq_ok_iff.mp h
    cases node <;> cases hkind <;> cases harrange <;> cases slot <;> trivial
  · intro h
    have hleft := h .left
    have hmiddle := h .middle
    have hright := h .right
    cases kind with
    | conditionalElse =>
      obtain ⟨condition, rfl⟩ := Option.isSome_iff_exists.mp hleft
      obtain ⟨consequence, rfl⟩ := Option.isSome_iff_exists.mp hmiddle
      obtain ⟨alternative, rfl⟩ := Option.isSome_iff_exists.mp hright
      exact ⟨_, rfl⟩
    | forHeader => exact ⟨_, rfl⟩
    | _ =>
      obtain ⟨first, rfl⟩ := Option.isSome_iff_exists.mp hleft
      obtain rfl := Option.isNone_iff_eq_none.mp hmiddle
      obtain ⟨second, rfl⟩ := Option.isSome_iff_exists.mp hright
      exact ⟨_, rfl⟩

/-- Where they are not as needed, it is said what is wrong with them. -/
theorem pair_eq_error_iff {kind : Kind} {build : Node → Node → Node}
    {left middle right : Option Node} {error : ShapeError} (hleft : kind.use .left = .needed)
    (hmiddle : kind.use .middle = .refused) (hright : kind.use .right = .needed) :
    pair kind build left middle right = .error error ↔
      kind.misfit? left middle right = some error := by
  cases middle with
  | some _ => simp [pair, Kind.misfit?, hmiddle]
  | none =>
    cases left <;> cases right <;>
      simp [pair, required, Kind.misfit?, Kind.lacks, Slot.among, hleft, hmiddle, hright, bind,
        Except.bind, pure, Except.pure]

/-- **And otherwise it is said what is wrong with them.** -/
theorem make_eq_error_iff {kind : Kind} {left middle right : Option Node} {error : ShapeError} :
    make kind left middle right = .error error ↔
      kind.misfit? left middle right = some error := by
  cases kind with
  | conditionalElse =>
    cases left <;> cases middle <;> cases right <;>
      simp [make, required, Kind.misfit?, Kind.lacks, Kind.use, Slot.among, bind, Except.bind, pure,
        Except.pure]
  | forHeader => simp [make, Kind.misfit?, Kind.lacks, Kind.use, pure, Except.pure]
  | _ => exact pair_eq_error_iff rfl rfl rfl

/-! ### Building a tree anew -/

/-- Builds a node of a kind from the subtrees that a node of this kind has at its own places. -/
def makeFrom (kind : Kind) (slots : List (Option Node)) : Except ShapeError Node :=
  let (left, middle, right) := kind.arrange slots
  make kind left middle right

/-- Builds a tree anew from the leaves up.  A node that has a kind is built from its kind and the
    subtrees built anew, and the others are put together as they are. -/
def rebuild (node : Node) : Except ShapeError Node :=
  let slots := node.slots.attach.mapM fun ⟨slot, hslot⟩ =>
    slot.attach.mapM fun ⟨child, hchild⟩ =>
      have : some child ∈ node.slots := Option.mem_def.mp hchild ▸ hslot
      have := sizeOf_lt_of_mem_children (mem_children.mpr this)
      child.rebuild
  match node with
  | literal value => return literal value
  | identifier name => return identifier name
  | assignment name value => return assignment name (← value.rebuild)
  | declaration name none => return declaration name none
  | declaration name (some initial) => return declaration name (some (← initial.rebuild))
  | binary operator _ _ => do makeFrom (.binary operator) (← slots)
  | sequence _ _ => do makeFrom .sequence (← slots)
  | conditional _ _ => do makeFrom .conditional (← slots)
  | conditionalElse _ _ _ => do makeFrom .conditionalElse (← slots)
  | whileLoop _ _ => do makeFrom .whileLoop (← slots)
  | forHeader _ _ _ => do makeFrom .forHeader (← slots)
  | forLoop _ _ => do makeFrom .forLoop (← slots)
termination_by sizeOf node

/-- The rule by which a node that has a kind is built anew. -/
theorem rebuild_of_kind? {node : Node} {kind : Kind} (h : node.kind? = some kind) :
    node.rebuild = node.slots.mapM (Option.mapM rebuild) >>= makeFrom kind := by
  -- That the subtrees are known to be smaller matters to the recursion only, not to its result.
  have hslots (slots : List (Option Node)) :
      (slots.attach.mapM fun slot => slot.1.attach.mapM fun child => child.1.rebuild) =
        slots.mapM (Option.mapM rebuild) := by
    rw [List.mapM_subtype (g := Option.mapM rebuild) fun slot _ => by cases slot <;> rfl,
      List.unattach_attach]
  cases node <;> cases h <;> rw [rebuild, hslots]

/-- From its kind and its subtrees a node is built again. -/
theorem makeFrom_slots {node : Node} {kind : Kind} (h : node.kind? = some kind) :
    makeFrom kind node.slots = .ok node := by
  rw [makeFrom]
  exact make_eq_ok_iff.mpr ⟨h, rfl⟩

theorem mapM_rebuild {slots : List (Option Node)}
    (h : ∀ child, some child ∈ slots → child.rebuild = .ok child) :
    slots.mapM (Option.mapM rebuild) = .ok slots := by
  induction slots with
  | nil => rfl
  | cons slot slots ih =>
    have hrest := ih fun child hchild => h child (List.mem_cons_of_mem _ hchild)
    rw [List.mapM_cons, hrest]
    cases slot with
    | none => rfl
    | some child =>
      rw [Option.mapM_some, h child List.mem_cons_self]
      rfl

/-- **A tree built anew is the same tree.** -/
theorem rebuild_eq (node : Node) : node.rebuild = .ok node := by
  induction node using induct with
  | step node ih =>
    cases hkind : node.kind? with
    | some kind =>
      rw [rebuild_of_kind? hkind, mapM_rebuild fun child h => ih child (mem_children.mpr h)]
      exact makeFrom_slots hkind
    | none =>
      cases node with
      | literal value | identifier name => rw [rebuild]; rfl
      | assignment name value =>
        rw [rebuild, ih value (by simp [children, slots])]
        rfl
      | declaration name initial =>
        cases initial with
        | none => rw [rebuild]; rfl
        | some initial =>
          rw [rebuild, ih initial (by simp [children, slots])]
          rfl
      | _ => cases hkind

/-- **What is made of a kind and three subtrees.**  A node is made just if they fit the kind.  It is
    shown by the name of the kind, and its children are the subtrees given, from left to right and
    none left out.  If nothing is made, it is said what is wrong: a subtree in the middle that the
    kind refuses comes before all that is missing, and of what is missing the first is named.  And
    so every tree can be built anew, from the leaves up, and is then the same tree. -/
theorem make_outcome :
    (∀ (kind : Kind) (left middle right : Option Node),
      ((∃ node, make kind left middle right = .ok node) ↔ kind.Fits left middle right) ∧
        (∀ node, make kind left middle right = .ok node →
          node.label = kind.name ∧ node.children = [left, middle, right].filterMap id) ∧
        ∀ error, make kind left middle right = .error error ↔
          kind.misfit? left middle right = some error) ∧
      ∀ node : Node, node.rebuild = .ok node := by
  refine ⟨fun kind left middle right => ⟨exists_make_eq_ok_iff, ?_, fun _ => make_eq_error_iff⟩,
    rebuild_eq⟩
  intro node hmake
  obtain ⟨hkind, harrange⟩ := make_eq_ok_iff.mp hmake
  exact ⟨label_of_kind? hkind, children_of_arrange hkind harrange⟩

/-- A header with one part, a loop with a subtree that it refuses and none of those that it needs,
    a conditional without its alternative, and a loop over all of them built anew. -/
theorem make_outcome_forHeader :
    let header := forHeader none (some (identifier "more")) none
    let loop := forLoop header (conditional (identifier "c") (declaration "t" none))
    make .forHeader none (some (identifier "more")) none = .ok header ∧
      header.label = "ForHeader" ∧ header.children = [identifier "more"] ∧
      make .whileLoop none (some header) none = .error (.unexpected .whileLoop .middle) ∧
      make .conditionalElse (some header) (some loop) none =
        .error (.missing .conditionalElse .right) ∧
      loop.rebuild = .ok loop := by
  intro header loop
  have hheader : make .forHeader none (some (identifier "more")) none = .ok header := rfl
  obtain ⟨hmake, hrebuild⟩ := make_outcome
  obtain ⟨hlabel, hchildren⟩ := (hmake _ _ _ _).2.1 header hheader
  exact ⟨hheader, hlabel, hchildren, ((hmake _ _ _ _).2.2 _).mpr rfl,
    ((hmake _ _ _ _).2.2 _).mpr rfl, hrebuild loop⟩

end Node

end Frontend
