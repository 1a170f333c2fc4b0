import Frontend.Script.Command
import Frontend.Table.Dump
import Frontend.Table.Operations

namespace Frontend

open Text (trimmed)

/-!
# Carrying out commands

* `helpText` — the list of commands;
* `Entry.description` — an entry as a lookup shows it;
* `Command.execute` — the effect of a command on a table, with the text that answers it.
-/

/-- The list of commands, a blank line before and an ended line after. -/
def helpText : String := "
Commands:
    open, \x7b                  Open a nested scope
    close, \x7d                 Close the current scope
    insert <name> <type>     Declare a name in the current scope (alias: decl)
    <type> <name>            Same as insert, e.g. `int x`
    lookup <name>            Resolve a name, innermost scope first
    local <name>             Resolve a name in the current scope only
    dump                     Print every open scope
    state                    Show whether any scope is open
    reset                    Drop all scopes and reopen the root
    help                     Show this message

Types: int, float, char, void, undefined
Separate commands with newlines or `;`. `#` and `//` start a comment.
"

/-- An entry as a lookup shows it. -/
def Entry.description (entry : Entry) : String :=
  s!"{entry.name}: {entry.type.name} (level {entry.level})"

/-- The state of a table as a command shows it. -/
def Table.stateText {σ : Type} (table : Table σ) : String :=
  match table.currentLevel? with
  | some level => s!"Active: {table.depth} open scope(s), current level {level}"
  | none => "Degenerate: no active scope"

namespace Command

variable {σ : Type} [Allocator σ]

/-- Carries out a command.  Its answer is the text to show, or the reason why it failed. -/
def execute (table : Table σ) : Command → Outcome (Except CommandError String × Table σ)
  | openScope => do
    let (level, table) ← table.openScope
    return (.ok s!"Opened scope level {level}", table)
  | closeScope => do
    match ← table.closeScope with
    | (.ok level, table) => return (.ok s!"Closed scope level {level}", table)
    | (.error error, table) => return (.error (.table error), table)
  | insert name type => do
    match ← table.insert name type with
    | (.ok entry, table) =>
      return (.ok s!"Inserted '{entry.name}' ({entry.type.name}) at level {entry.level}", table)
    | (.error error, table) => return (.error (.table error), table)
  | lookup name =>
    match table.resolve name with
    | .ok entry => pure (.ok entry.description, table)
    | .error error => pure (.error (.table error), table)
  | lookupCurrent name =>
    match table.lookupCurrent name with
    | some entry => pure (.ok entry.description, table)
    | none => pure (.error (.table (.notFound name)), table)
  | dump => pure (.ok (trimmed table.dump), table)
  | state => pure (.ok table.stateText, table)
  | reset => do
    let table ← table.reset
    return (.ok "Symbol table reset", table)
  | help => pure (.ok (trimmed helpText), table)

end Command

end Frontend
