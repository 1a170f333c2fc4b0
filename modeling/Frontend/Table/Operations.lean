import Frontend.Outcome
import Frontend.Table.Basic

namespace Frontend

/-!
# Operations on symbol tables

* `Table.openScope` — a new innermost scope, on the next level;
* `Table.closeScope` — the innermost scope goes, with its entries;
* `Table.insert` — a declaration in the innermost scope;
* `Table.reset` — every scope goes and a root is opened on level 0;
* `Table.create` — a table with its root open.

Opening a scope ends the program when the allocator denies the first slots or when no level is left;
inserting ends it when the allocator denies the entry itself.  All other failures are values of
`TableError`.
-/

namespace Table

variable {σ : Type}

/-! ### Closing and opening -/

/-- Closes the innermost scope and returns its level.  Closing a root leaves no scope open. -/
def closeScope (table : Table σ) : Outcome (Except TableError Nat × Table σ) :=
  match table.scopes with
  | [] => .done [.nothingToClose] (.error .noActiveScope, table)
  | scope :: outer =>
    let rootEvents := if scope.enclosing.isNone then [Event.rootClosed scope.level] else []
    .done (rootEvents ++ [.closed scope.level scope.count])
      (.ok scope.level, { table with scopes := outer })

variable [Allocator σ]

/-- Opens a scope inside the current one and returns its level.  Levels count the openings since
    the last reset, whatever has been closed in between; with no scope open, the new one is a
    root. -/
def openScope (table : Table σ) : Outcome (Nat × Table σ) :=
  if table.nextLevel < levelLimit then
    let level := table.nextLevel
    let slots := table.initialCapacity
    let (reply, allocator) := Allocator.answer table.allocator (.scope slots)
    if reply.isGranted && slots < Scope.slotLimit then
      let scope := Scope.fresh level table.currentLevel? slots
      .done [.opened level]
        (level, { table with scopes := scope :: table.scopes, nextLevel := level + 1, allocator })
    else .aborted [] (.scopeRefused level slots)
  else .aborted [] .levelsExhausted

/-! ### Declaring -/

/-- Declares `name` in the innermost scope.  Outer scopes are not consulted.  A full scope is grown
    first; if that is denied, the declaration is refused and every scope stays as it was. -/
def insert (table : Table σ) (name : String) (type : DataType) :
    Outcome (Except TableError Entry × Table σ) :=
  match table.scopes with
  | [] => .done [.nowhereToInsert name] (.error .noActiveScope, table)
  | scope :: outer =>
    if (scope.lookup name).isSome then
      .done [] (.error (.redeclaration name scope.level), table)
    else
      match scope.makeRoom table.allocator with
      | (none, allocator) =>
        .done [.growthRefused scope.level scope.capacity scope.doubled]
          (.error (.growthRefused scope.level scope.capacity), { table with allocator })
      | (some roomy, allocator) =>
        let (reply, allocator) := Allocator.answer allocator (.entry name.utf8ByteSize)
        if reply.isGranted then
          let entry : Entry := { name, type, level := scope.level }
          .done [.inserted name type scope.level]
            (.ok entry, { table with scopes := roomy.add entry :: outer, allocator })
        else .aborted [] (.entryRefused name)

/-! ### Starting over -/

/-- Drops every scope and opens a root on level 0. -/
def reset (table : Table σ) : Outcome (Table σ) := do
  let (_, fresh) ← openScope { table with scopes := [], nextLevel := 0 }
  Outcome.report .restarted
  return fresh

/-- A table whose scopes start with `capacity` slots, with its root open on level 0. -/
def create (capacity : Nat) (allocator : σ) : Outcome (Table σ) := do
  let (_, fresh) ←
    openScope { scopes := [], nextLevel := 0, initialCapacity := capacity, allocator }
  Outcome.report .started
  return fresh

/-- The first scope of a table is its root, on level 0. -/
example :
    (create 10 ({} : Heap)).value?.map Table.scopes = some [Scope.fresh 0 none 10] := by decide

/-- No allocator makes room for a scope whose size in bytes overflows. -/
example : create Scope.slotLimit ({} : Heap) = .aborted [] (.scopeRefused 0 Scope.slotLimit) := rfl

end Table

end Frontend
