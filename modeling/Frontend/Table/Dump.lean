import Frontend.Sink
import Frontend.Table.Basic
import Frontend.Text.Split

namespace Frontend

/-!
# The dump of a symbol table

The open scopes as a text for people, the innermost scope first.

* `Entry.line` — the row of one entry;
* `Scope.lines` — a scope's heading, its rows between two rules;
* `Table.lines`, `Table.dump` — the whole table, as lines and as one text;
* `Table.dumpTo` — the dump written to a sink.
-/

/-- The row of an entry: its name padded to 15 characters, its type to 10, and its level. -/
def Entry.line (entry : Entry) : String :=
  s!"  Name: {Text.padRight 15 entry.name} | Type: {Text.padRight 10 entry.type.name} | Defined Scope: {entry.level}"

/-- The rule above and below the rows of a scope. -/
def dumpRule : String := "------------------------------------------------------"

/-- A scope's heading and its rows, or a remark that it has none, between two rules. -/
def Scope.lines (scope : Scope) : List String :=
  [s!"Scope Level: {scope.level} (Capacity: {scope.capacity}, Count: {scope.count})", dumpRule] ++
    (if scope.isEmpty then ["  (Scope is empty)"] else []) ++
    scope.entries.map Entry.line ++ [dumpRule]

/-- The open scopes from the inside out, an arrow between each and the one around it. -/
def scopeLines : List Scope → List String
  | [] => ["  (No active scope)"]
  | [scope] => scope.lines
  | scope :: outer => scope.lines ++ ["  |", "  V (Enclosing Scope)"] ++ scopeLines outer

namespace Table

variable {σ : Type}

/-- The lines of a dump, the blank one at each end included. -/
def lines (table : Table σ) : List String :=
  ["", "----- Symbol Table (Current View from Innermost Scope) -----"] ++
    scopeLines table.scopes ++ ["--- End Symbol Table ---", ""]

/-- The dump as one text, every line ended. -/
def dump (table : Table σ) : String :=
  String.join (table.lines.map (· ++ "\n"))

/-- Writes the dump to a sink, line by line, and says whether the sink took all of it. -/
def dumpTo {τ : Type} [Sink τ] (table : Table σ) (sink : τ) : Bool × τ :=
  Sink.writeAll sink (table.lines.map (· ++ "\n"))

/-- Only the open scopes are dumped. -/
theorem dump_congr {τ : Type} {table : Table σ} {other : Table τ}
    (h : table.scopes = other.scopes) : table.dump = other.dump := by
  simp [dump, lines, h]

end Table

end Frontend
