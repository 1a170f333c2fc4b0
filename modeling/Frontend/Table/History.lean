import Frontend.Table.Operations

namespace Frontend

/-!
# Histories of symbol tables

The operations that can change a table, as data, so that a table's whole history can be run and
spoken about.

* `Operation` — one change asked for, and `Response` what came of it;
* `Table.apply` — one operation on a table;
* `Table.run` — several in a row, stopping at the first fatal condition.
-/

/-- A change asked of a symbol table. -/
inductive Operation where
  | openScope
  | closeScope
  | insert (name : String) (type : DataType)
  | reset
  deriving DecidableEq

/-- What came of an operation. -/
inductive Response where
  /-- A scope of this level was opened. -/
  | opened (level : Nat)
  /-- The scope of this level was closed. -/
  | closed (level : Nat)
  /-- A name was declared. -/
  | inserted (entry : Entry)
  /-- The table was emptied. -/
  | restarted
  /-- Nothing was changed. -/
  | refused (error : TableError)
  deriving DecidableEq

namespace Table

variable {σ : Type} [Allocator σ]

/-- Carries out one operation. -/
def apply (table : Table σ) : Operation → Outcome (Response × Table σ)
  | .openScope => do
    let (level, table) ← table.openScope
    return (.opened level, table)
  | .closeScope => do
    match ← table.closeScope with
    | (.ok level, table) => return (.closed level, table)
    | (.error error, table) => return (.refused error, table)
  | .insert name type => do
    match ← table.insert name type with
    | (.ok entry, table) => return (.inserted entry, table)
    | (.error error, table) => return (.refused error, table)
  | .reset => do
    let table ← table.reset
    return (.restarted, table)

/-- Carries out operations one after the other; the responses are in their order. -/
def run (table : Table σ) : List Operation → Outcome (List Response × Table σ)
  | [] => pure ([], table)
  | operation :: rest => do
    let (response, table) ← table.apply operation
    let (responses, table) ← table.run rest
    return (response :: responses, table)

/-- A table is reached by a history if that history, on a table just made, ends in it. -/
def ReachedBy (table : Table σ) (history : List Operation) : Prop :=
  ∃ capacity allocator start responses before after,
    create capacity allocator = .done before start ∧
      start.run history = .done after (responses, table)

@[simp] theorem run_nil (table : Table σ) : table.run [] = .done [] ([], table) := rfl

/-- A history can be cut anywhere: its first part is run, then the rest on the table that left. -/
theorem run_append (table : Table σ) (first second : List Operation) :
    table.run (first ++ second) = (do
      let (responses, middle) ← table.run first
      let (later, last) ← middle.run second
      return (responses ++ later, last)) := by
  induction first generalizing table with
  | nil =>
    cases h : table.run second <;> simp [h]
  | cons operation rest ih =>
    simp only [List.cons_append, run]
    cases h : table.apply operation with
    | aborted events cause => rfl
    | done events result =>
      obtain ⟨response, middle⟩ := result
      simp only [Outcome.done_bind, ih]
      cases h1 : middle.run rest with
      | aborted events cause => rfl
      | done events1 result1 =>
        obtain ⟨responses, last⟩ := result1
        cases h2 : last.run second <;> simp [h2]

end Table

end Frontend
