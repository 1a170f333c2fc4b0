import Frontend.DataType

namespace Frontend

/-!
# Events

What a symbol table reports about its own work while it works.

* `Event` — one thing that happened, `Event.severity` how serious it is, `Event.message` its text;
* `Fatal` — a condition that no operation survives, with its text.
-/

/-- How serious a report is. -/
inductive Severity where
  | debug
  | warn
  | error
  deriving DecidableEq

/-- The severity as it is shown. -/
def Severity.name : Severity → String
  | debug => "DEBUG"
  | warn => "WARN"
  | error => "ERROR"

/-- One thing that happened in a symbol table. -/
inductive Event where
  /-- A scope was opened. -/
  | opened (level : Nat)
  /-- The table was made, its first scope open. -/
  | started
  /-- The table was emptied and its first scope opened again. -/
  | restarted
  /-- A name was declared. -/
  | inserted (name : String) (type : DataType) (level : Nat)
  /-- A scope with `count` entries was closed. -/
  | closed (level count : Nat)
  /-- The scope being closed was a root. -/
  | rootClosed (level : Nat)
  /-- A scope was to be closed and none was open. -/
  | nothingToClose
  /-- A name was to be declared and no scope was open. -/
  | nowhereToInsert (name : String)
  /-- A full scope was denied more slots. -/
  | growthRefused (level capacity requested : Nat)
  deriving DecidableEq

namespace Event

/-- What succeeds is reported for debugging; what fails, or leaves no scope open, is a warning. -/
def severity : Event → Severity
  | opened _ | started | restarted | inserted .. | closed .. => .debug
  | rootClosed _ | nothingToClose | nowhereToInsert _ | growthRefused .. => .warn

/-- The text of a report. -/
def message : Event → String
  | opened level => s!"Opened scope level {level}"
  | started => "Symbol table initialized, global scope (level 0) opened"
  | restarted => "Symbol table reset"
  | inserted name type level => s!"Inserted '{name}' ({type.name}) into scope level {level}"
  | closed level count => s!"Closed scope level {level} ({count} entries)"
  | rootClosed level =>
    s!"Root scope (level {level}) closed; new declarations are refused until a scope is opened"
  | nothingToClose => "No scope to close"
  | nowhereToInsert name => s!"Cannot insert '{name}', no current scope"
  | growthRefused level capacity requested =>
    s!"Scope level {level} could not grow from {capacity} to {requested} entries"

end Event

/-- A condition after which the program cannot go on. -/
inductive Fatal where
  /-- Every level has been handed out. -/
  | levelsExhausted
  /-- A scope was denied its first slots. -/
  | scopeRefused (level slots : Nat)
  /-- An entry was denied. -/
  | entryRefused (name : String)
  deriving DecidableEq

/-- The last words before the program ends, always of severity `error`. -/
def Fatal.message : Fatal → String
  | levelsExhausted => "Scope levels exhausted; refusing to reuse a level"
  | scopeRefused level slots => s!"Out of memory creating scope level {level} with {slots} slots"
  | entryRefused name => s!"Out of memory creating symbol entry for '{name}'"

end Frontend
