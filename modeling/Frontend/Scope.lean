import Frontend.Allocator.Basic
import Frontend.DataType
import Frontend.Text.Count

namespace Frontend

/-!
# Scopes

A scope is one lexical region of a program: the names declared in it, in the order of their
declaration.

* `Entry` — one declared name;
* `Scope` — the entries, the level of the scope and of the one around it, and its capacity;
* `Scope.lookup` — the entry of a name;
* `Scope.add` — one more entry;
* `Scope.doubled` — the capacity a full scope asks for, and `Scope.makeRoom` the asking.
-/

/-- A declared name. -/
structure Entry where
  name : String
  type : DataType
  /-- The level of the scope the name was declared in. -/
  level : Nat
  deriving DecidableEq

/-- An open scope. -/
structure Scope where
  /-- The number of this scope; no two scopes opened between two resets share it. -/
  level : Nat
  /-- The level of the scope around this one; `none` for a root. -/
  enclosing : Option Nat
  /-- How many entries fit before the scope has to grow. -/
  capacity : Nat
  /-- The entries, the oldest first. -/
  entries : List Entry
  deriving DecidableEq

namespace Scope

/-- The number of entries. -/
def count (scope : Scope) : Nat := scope.entries.length

/-- Whether the scope holds no entry. -/
def isEmpty (scope : Scope) : Bool := scope.entries.isEmpty

/-- Whether the next entry needs more room. -/
def isFull (scope : Scope) : Bool := scope.capacity ≤ scope.count

/-- A scope with room for `capacity` entries and none in it. -/
def fresh (level : Nat) (enclosing : Option Nat) (capacity : Nat) : Scope :=
  { level, enclosing, capacity, entries := [] }

/-- The entry of `name`, if the scope holds one. -/
def lookup (scope : Scope) (name : String) : Option Entry :=
  scope.entries.find? fun entry => entry.name == name

/-- The scope with `entry` after all its entries. -/
def add (scope : Scope) (entry : Entry) : Scope :=
  { scope with entries := scope.entries ++ [entry] }

@[simp] theorem count_fresh (level : Nat) (enclosing : Option Nat) (capacity : Nat) :
    (fresh level enclosing capacity).count = 0 := rfl

@[simp] theorem lookup_fresh (level : Nat) (enclosing : Option Nat) (capacity : Nat)
    (name : String) : (fresh level enclosing capacity).lookup name = none := rfl

@[simp] theorem count_add (scope : Scope) (entry : Entry) :
    (scope.add entry).count = scope.count + 1 := by
  simp [count, add]

/-- A found entry is one of the scope's and has the name that was looked for. -/
theorem of_lookup_eq_some {scope : Scope} {name : String} {entry : Entry}
    (h : scope.lookup name = some entry) : entry ∈ scope.entries ∧ entry.name = name :=
  ⟨List.mem_of_find?_eq_some h, by simpa using List.find?_some h⟩

theorem lookup_eq_none_iff {scope : Scope} {name : String} :
    scope.lookup name = none ↔ ∀ entry ∈ scope.entries, entry.name ≠ name := by
  simp [lookup]

/-- An added entry is found under its name where that name was new, and hides nothing. -/
theorem lookup_add (scope : Scope) (entry : Entry) (name : String) :
    (scope.add entry).lookup name =
      (scope.lookup name).or (if entry.name = name then some entry else none) := by
  simp only [lookup, add, List.find?_append]
  by_cases h : entry.name = name <;> simp [h]

/-! ### Growing -/

/-- Slots can be reserved only below this number, the 58th power of two: at 32 bytes to a slot,
    from there on their size in bytes overflows. -/
def slotLimit : Nat := 288230376151711744

/-- The capacity a full scope asks for: twice its own, at least one slot, and never more than the
    largest count. -/
def doubled (scope : Scope) : Nat :=
  max 1 (min (2 * scope.capacity) Text.wordMax)

/-- Even a scope without any slot asks for one. -/
example : (fresh 0 none 0).doubled = 1 := by decide

example : (fresh 0 none 10).doubled = 20 := by decide

/-- Makes room for one more entry.  A scope with a free slot stays as it is and asks for nothing;
    a full one asks for double its capacity, and gets it if the allocator grants it and it can be
    reserved.  `none` means that there is no room. -/
def makeRoom {σ : Type} [Allocator σ] (scope : Scope) (allocator : σ) : Option Scope × σ :=
  if scope.isFull then
    let (reply, allocator) := Allocator.answer allocator (.growth scope.capacity scope.doubled)
    if reply.isGranted && scope.doubled < slotLimit then
      (some { scope with capacity := scope.doubled }, allocator)
    else (none, allocator)
  else (some scope, allocator)

/-- Room is made by capacity alone: level, enclosing level and entries stay. -/
theorem of_makeRoom_eq_some {σ : Type} [Allocator σ] {scope roomy : Scope} {before after : σ}
    (h : scope.makeRoom before = (some roomy, after)) :
    roomy.level = scope.level ∧ roomy.enclosing = scope.enclosing ∧
      roomy.entries = scope.entries ∧ scope.capacity ≤ roomy.capacity := by
  unfold makeRoom at h
  split at h
  · rename_i hfull
    dsimp only at h
    split at h
    · rename_i hgranted
      simp only [Prod.mk.injEq, Option.some.injEq] at h
      obtain ⟨rfl, -⟩ := h
      simp only [Bool.and_eq_true, decide_eq_true_eq] at hgranted
      refine ⟨rfl, rfl, rfl, ?_⟩
      have hlimit := hgranted.2
      simp only [doubled, slotLimit, Text.wordMax] at hlimit ⊢
      omega
    · simp at h
  · simp only [Prod.mk.injEq, Option.some.injEq] at h
    obtain ⟨rfl, -⟩ := h
    exact ⟨rfl, rfl, rfl, Nat.le_refl _⟩

end Scope

end Frontend
