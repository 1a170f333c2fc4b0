import Frontend.Event
import Frontend.Pattern.Basic
import Frontend.Text.Bytes
import Frontend.Text.Count
import Frontend.Text.Decimal
import Frontend.Text.Numeral

namespace Frontend.Inspector

open Text (splitWhere isBlank isLetterOrNumeral readCount? isDecimal byteCount cut?)

/-!
# Filters of the log

Which events the inspector shows.

* `Verbosity` — how much is shown, from nothing to everything;
* `Origin` — where an event comes from;
* `Directive` — a verbosity for some of the events, and `Directive.ofText?` its reading;
* `LogFilter` — several directives, as written in the environment, of which the narrowest that
  applies decides (`LogFilter.verbosity`).
-/

/-! ### Verbosity -/

/-- How much of a log is shown; each step shows more than the one before. -/
inductive Verbosity where
  | off
  | error
  | warn
  | info
  | debug
  | trace
  deriving DecidableEq

namespace Verbosity

/-- Every verbosity with its name, in the order of their numbers. -/
def named : List (String × Verbosity) :=
  [("off", off), ("error", error), ("warn", warn), ("info", info), ("debug", debug),
   ("trace", trace)]

/-- Reads a verbosity: its name in any mixture of ASCII cases, or its number. -/
def ofText? (text : String) : Option Verbosity :=
  match readCount? text with
  | some number => named[number]?.map Prod.snd
  | none => named.lookup text.toLower

/-- Whether a report of some severity is shown. -/
def allows : Verbosity → Severity → Bool
  | off, _ => false
  | error, severity => severity == .error
  | warn, severity | info, severity => severity != .debug
  | debug, _ | trace, _ => true

end Verbosity

/-! ### Origins -/

/-- Where an event comes from. -/
inductive Origin where
  /-- The symbol table. -/
  | table
  /-- What reads the lines of a session. -/
  | lineReader
  deriving DecidableEq

namespace Origin

/-- What an origin is called in a directive. -/
def name : Origin → String
  | table => "tinyc::symbol_table"
  | lineReader => "rustyline"

/-- What the events of an origin are made of. -/
def fields : Origin → List String
  | table => ["message"]
  | lineReader => ["message", "log.target", "log.module_path", "log.file", "log.line"]

end Origin

/-! ### Directives -/

/-- A verbosity for some of the events. -/
structure Directive where
  /-- Only origins whose name starts so; all of them if there is none. -/
  target : Option String
  /-- Only events that have this field; all of them if there is none. -/
  field : Option String := none
  /-- Only events at a certain point in the work of a program or with certain values.  Nothing here
      reports such events, so a directive of this kind never applies. -/
  conditional : Bool := false
  verbosity : Verbosity
  deriving DecidableEq

namespace Directive

/-- Whether a directive can start with this character, blanks aside. -/
def canStart (c : Char) : Bool :=
  isLetterOrNumeral c || c == '-' || c == ':' || c == '_' || c == '['

/-- Reads the verbosity after an equals sign.  Where nothing is written, everything is shown. -/
def verbosityOf? (text : List Char) : Option Verbosity :=
  if text.isEmpty then some .trace else Verbosity.ofText? (String.ofList text)

/-- Whether a text can stand for a value: a number or an expression.  No value is ever compared, but
    a malformed one spoils the directive. -/
def isValue (text : List Char) : Bool := isDecimal text || Pattern.isWellFormed text

/-- A condition in brackets: the field it names, and whether it asks for more than that. -/
structure Condition where
  field : Option String
  conditional : Bool
  deriving DecidableEq

/-- Reads a field in braces, which may be given a value. -/
def fieldOf? (text : List Char) : Option Condition :=
  match splitWhere (· == '=') text with
  | [name] =>
    if name.isEmpty then none else some { field := some (String.ofList name), conditional := false }
  | _ :: value :: _ => if isValue value then some { field := none, conditional := true } else none
  | [] => none

/-!
The parts of a directive are found behind the blanks at its start, but are cut out of the text with
these blanks at the same distance from its start.  So each of them begins and ends too early by as
many bytes as the blanks take; without such blanks, it is what stands there (`Text.cut?_append`).
-/

/-- Reads what follows an opening bracket, and gives back what stands behind the closing one.  In
    brackets stands a point in the work of the program, then perhaps a field in braces.  All that
    is found after `start` bytes of the directive `text`. -/
def conditionOf? (text : List Char) (start : Nat) (inside : List Char) :
    Option (Condition × List Char) :=
  let point := inside.takeWhile fun c => c != ']' && c != '\x7b'
  match inside.drop point.length with
  | ']' :: rest => some ({ field := none, conditional := true }, rest)
  | '\x7b' :: braced =>
    let field := braced.takeWhile (· != '\x7d')
    match braced.drop field.length with
    | '\x7d' :: ']' :: rest => do
      let written ← cut? text (start + byteCount point + 1) (byteCount field)
      let condition ← fieldOf? written
      some ({ condition with conditional := condition.conditional || !point.isEmpty }, rest)
    | _ => none
  | _ => none

/-- Reads the end of a directive: a verbosity after an equals sign, or nothing if everything is
    shown.  It is found after `start` bytes of the directive `text`. -/
def endOf? (text : List Char) (start : Nat) (rest : List Char) : Option Verbosity :=
  match rest with
  | '=' :: _ => (cut? text (start + 1) (byteCount text - (start + 1))).bind verbosityOf?
  | rest => if rest.all isBlank then some .trace else none

/-- Reads a directive of one word: a verbosity for everything, or else an origin of which everything
    is shown.  Blanks are part of the word. -/
def ofWord (text : List Char) : Directive :=
  match Verbosity.ofText? (String.ofList text) with
  | some verbosity => { target := none, verbosity }
  | none => { target := some (String.ofList text), verbosity := .trace }

/-- Reads a directive: an origin, a condition in brackets, a verbosity after an equals sign. -/
def ofText? (text : List Char) : Option Directive :=
  let body := text.dropWhile isBlank
  let name := body.takeWhile fun c => c != '=' && c != '['
  let rest := body.drop name.length
  if !body.head?.any canStart then none
  else if rest.isEmpty then some (ofWord text)
  else do
    let written ← cut? text 0 (byteCount name)
    let target := if written.isEmpty then none else some (String.ofList written)
    match rest with
    | '[' :: inside =>
      let ({ field, conditional }, rest) ← conditionOf? text (byteCount name + 1) inside
      let verbosity ← endOf? text (byteCount body - byteCount rest) rest
      some { target, field, conditional, verbosity }
    | rest => (endOf? text (byteCount name) rest).map fun verbosity => { target, verbosity }

/-- Whether a directive speaks of the events of an origin. -/
def appliesTo (directive : Directive) (origin : Origin) : Bool :=
  !directive.conditional && directive.target.all (·.isPrefixOf origin.name) &&
    directive.field.all origin.fields.contains

/-- Whether `other` is as narrow as `directive` or narrower: a longer name of the origin counts
    first, then the field, later in the alphabet being narrower. -/
def yieldsTo (directive other : Directive) : Bool :=
  let length (directive : Directive) := (directive.target.getD "").length
  let field (directive : Directive) := directive.field.getD ""
  length directive < length other ||
    (length directive == length other && !decide (field other < field directive))

end Directive

/-! ### Filters -/

/-- What of the log is shown. -/
structure LogFilter where
  directives : List Directive
  deriving DecidableEq

namespace LogFilter

/-- The filter that shows every origin alike. -/
def uniform (verbosity : Verbosity) : LogFilter := ⟨[{ target := none, verbosity }]⟩

/-- Reads a filter, directives separated by commas.  No directive at all shows nothing; a malformed
    one spoils the whole. -/
def ofText? (text : String) : Option LogFilter :=
  (((splitWhere (· == ',') text.toList).filter fun piece => !piece.isEmpty).mapM
    Directive.ofText?).map LogFilter.mk

/-- The narrowest of several directives, the last of them if there are several. -/
def narrowest? (directives : List Directive) : Option Directive :=
  directives.foldl (fun best directive =>
    match best with
    | none => some directive
    | some best => some (if best.yieldsTo directive then directive else best)) none

/-- The verbosity for the events of an origin: that of the narrowest directive which applies. -/
def verbosity (filter : LogFilter) (origin : Origin) : Verbosity :=
  match narrowest? (filter.directives.filter (·.appliesTo origin)) with
  | some directive => directive.verbosity
  | none => .off

/-- Whether events of this origin and severity are shown. -/
def allows (filter : LogFilter) (origin : Origin) (severity : Severity) : Bool :=
  (filter.verbosity origin).allows severity

/-- The filter in force: the setting of the environment if there is one that can be read, and
    otherwise warnings, or everything for debugging. -/
def choose (setting : Option String) (verbose : Bool) : LogFilter :=
  match setting.bind ofText? with
  | some filter => filter
  | none => uniform (if verbose then .debug else .warn)

end LogFilter

end Frontend.Inspector
