import Frontend.Table.Basic
import Frontend.Text.Split

namespace Frontend

open Text (trimmed words)

/-!
# Commands

The commands that drive a symbol table by hand, one to a line.

* `Command` — what can be asked for, and `Command.line` how to write it;
* `Command.parse` — reads a line;
* `CommandError` — why a command failed, in reading or in its effect, with its text.
-/

/-- A command to a symbol table. -/
inductive Command where
  | openScope
  | closeScope
  | insert (name : String) (type : DataType)
  | lookup (name : String)
  | lookupCurrent (name : String)
  | dump
  | state
  | reset
  | help
  deriving DecidableEq

/-- The commands that take arguments, and so can be given the wrong number of them. -/
inductive Form where
  | insert
  | lookup
  | lookupCurrent
  deriving DecidableEq

/-- How a command with arguments is written. -/
def Form.synopsis : Form → String
  | insert => "insert <name> <type>"
  | lookup => "lookup <name>"
  | lookupCurrent => "local <name>"

/-- Why a command failed. -/
inductive CommandError where
  /-- The line is no command; this is all of it, trimmed. -/
  | unknown (line : String)
  /-- A command has the wrong number of arguments. -/
  | usage (form : Form)
  /-- The second argument of a declaration is no type. -/
  | unknownType (text : String)
  /-- The table refused. -/
  | table (error : TableError)
  deriving DecidableEq

/-- The text of a failure. -/
def CommandError.message : CommandError → String
  | unknown line => s!"Unknown command: {line}"
  | usage form => s!"Usage: {form.synopsis}"
  | unknownType text => s!"Unknown type: {text}"
  | table error => error.message

namespace Command

/-! ### Reading -/

/-- A declaration of `name` with the type that `text` names. -/
def declare (name text : String) : Except CommandError Command :=
  match DataType.ofText? text with
  | some type => .ok (.insert name type)
  | none => .error (.unknownType text)

/-- The command that the words of a line make; `none` if they make none.

    A first word that takes arguments decides the command whatever follows it.  Two words of which
    the first is a type are a declaration too. -/
def ofWords? : List String → Option (Except CommandError Command)
  | ["open"] | ["\x7b"] => some (.ok .openScope)
  | ["close"] | ["\x7d"] => some (.ok .closeScope)
  | ["insert", name, type] | ["decl", name, type] => some (declare name type)
  | "insert" :: _ | "decl" :: _ => some (.error (.usage .insert))
  | ["lookup", name] => some (.ok (.lookup name))
  | "lookup" :: _ => some (.error (.usage .lookup))
  | ["local", name] => some (.ok (.lookupCurrent name))
  | "local" :: _ => some (.error (.usage .lookupCurrent))
  | ["dump"] => some (.ok .dump)
  | ["state"] => some (.ok .state)
  | ["reset"] => some (.ok .reset)
  | ["help"] => some (.ok .help)
  | [type, name] => (DataType.ofText? type).map fun type => .ok (.insert name type)
  | _ => none

/-- Reads a line.  Only its words count, except that a line which is no command is quoted
    whole. -/
def parse (line : String) : Except CommandError Command :=
  match ofWords? ((words line.toList).map String.ofList) with
  | some result => result
  | none => .error (.unknown (trimmed line))

/-! ### Writing -/

/-- The line a command is usually written as. -/
def line : Command → String
  | openScope => "open"
  | closeScope => "close"
  | insert name type => s!"insert {name} {type.name}"
  | lookup name => s!"lookup {name}"
  | lookupCurrent name => s!"local {name}"
  | dump => "dump"
  | state => "state"
  | reset => "reset"
  | help => "help"

end Command

end Frontend
