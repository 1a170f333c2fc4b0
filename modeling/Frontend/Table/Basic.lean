import Frontend.Scope

namespace Frontend

/-!
# Symbol tables

A symbol table is a stack of open scopes.  Names are declared in the innermost scope; looking a name
up starts there and goes outwards, so an inner declaration hides an outer one for as long as its
scope is open.

* `Table σ` — the open scopes, the next level, and an allocator of type `σ`;
* `Table.lookup`, `Table.lookupCurrent`, `Table.resolve` — the three ways of finding a name;
* `TableError` — why an operation was refused, with its text.
-/

/-- A symbol table.  It is *active* while a scope is open and *degenerate* once all are closed. -/
structure Table (σ : Type) where
  /-- The open scopes, the innermost first. -/
  scopes : List Scope
  /-- The level of the next scope to be opened. -/
  nextLevel : Nat
  /-- The slots a scope starts with. -/
  initialCapacity : Nat
  /-- Whom the table asks for room. -/
  allocator : σ

/-- The slots a scope starts with unless told otherwise. -/
def defaultCapacity : Nat := 10

/-- The number of levels there are, the 32nd power of two: a level fits in half a word and is never
    handed out twice. -/
def levelLimit : Nat := 4294967296

/-- Why a table refused an operation.  The table is as it was before. -/
inductive TableError where
  /-- The innermost scope, of this level, already holds the name. -/
  | redeclaration (name : String) (level : Nat)
  /-- No open scope holds the name. -/
  | notFound (name : String)
  /-- Every scope has been closed. -/
  | noActiveScope
  /-- The innermost scope is full and was denied more than `capacity` slots. -/
  | growthRefused (level capacity : Nat)
  deriving DecidableEq

/-- The text of a refusal. -/
def TableError.message : TableError → String
  | redeclaration name level => s!"Redeclaration of '{name}' in scope level {level}"
  | notFound name => s!"Undeclared identifier: {name}"
  | noActiveScope => "No active scope"
  | growthRefused level capacity =>
    s!"Scope level {level} cannot grow beyond {capacity} entries"

namespace Table

variable {σ : Type}

/-- The innermost open scope. -/
def current? (table : Table σ) : Option Scope := table.scopes.head?

/-- The level of the innermost open scope. -/
def currentLevel? (table : Table σ) : Option Nat := table.current?.map Scope.level

/-- The number of open scopes. -/
def depth (table : Table σ) : Nat := table.scopes.length

/-- Whether a scope is open. -/
def isActive (table : Table σ) : Bool := !table.scopes.isEmpty

/-- The entry of `name` in the innermost scope. -/
def lookupCurrent (table : Table σ) (name : String) : Option Entry :=
  table.current?.bind (·.lookup name)

/-- The entry of `name` in the innermost scope that has one. -/
def lookup (table : Table σ) (name : String) : Option Entry :=
  table.scopes.findSome? (·.lookup name)

/-- The entry of `name`, or the reason why there is none. -/
def resolve (table : Table σ) (name : String) : Except TableError Entry :=
  match table.lookup name with
  | some entry => .ok entry
  | none => .error (.notFound name)

theorem resolve_eq_ok_iff {table : Table σ} {name : String} {entry : Entry} :
    table.resolve name = .ok entry ↔ table.lookup name = some entry := by
  unfold resolve
  split <;> simp [*]

end Table

end Frontend
