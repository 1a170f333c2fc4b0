import Frontend.Table.Basic
import Frontend.Text.Count

namespace Frontend.Inspector

open Text (readCount? wordMax)

/-!
# The command line

* `Options` — the settings given on the command line, and the words that are left;
* `Options.parse` — reads the arguments;
* `OptionError` — why they were refused, with its text;
* `Task` — what the remaining words ask for.
-/

/-- An option that takes a count. -/
inductive Flag where
  | capacity
  | maxCapacity
  deriving DecidableEq

/-- The option as it is written. -/
def Flag.text : Flag → String
  | capacity => "--capacity"
  | maxCapacity => "--max-capacity"

/-- Why a command line was refused. -/
inductive OptionError where
  /-- An option stands at the end without its value. -/
  | missingValue (flag : Flag)
  /-- The value of an option is no count. -/
  | badValue (flag : Flag)
  /-- Scopes are to start beyond their ceiling. -/
  | capacityAboveMax (capacity maxCapacity : Nat)
  deriving DecidableEq

/-- The text of a refusal. -/
def OptionError.message : OptionError → String
  | missingValue flag => s!"{flag.text} requires a value"
  | badValue flag => s!"{flag.text} value must be a non-negative integer"
  | capacityAboveMax capacity maxCapacity =>
    s!"--capacity ({capacity}) cannot exceed --max-capacity ({maxCapacity})"

/-- A command line taken apart. -/
structure Options where
  /-- The slots a scope starts with. -/
  capacity : Nat := defaultCapacity
  /-- The slots no scope grows beyond. -/
  maxCapacity : Nat := wordMax
  /-- Whether everything is logged. -/
  verbose : Bool := false
  /-- The arguments that are no options, in order. -/
  words : List String := []
  deriving DecidableEq

namespace Options

/-- Sets the value of an option. -/
def set (options : Options) (value : Nat) : Flag → Options
  | .capacity => { options with capacity := value }
  | .maxCapacity => { options with maxCapacity := value }

/-- The option an argument is. -/
def flag? (argument : String) : Option Flag :=
  if argument = Flag.capacity.text then some .capacity
  else if argument = Flag.maxCapacity.text then some .maxCapacity
  else none

/-- Takes the arguments one by one, an option that needs a value together with the argument after
    it, whatever that looks like.  Options may stand anywhere, and the last of a kind counts. -/
def gather (options : Options) : List String → Except OptionError Options
  | [] => .ok options
  | argument :: rest =>
    match flag? argument with
    | some flag =>
      match rest with
      | [] => .error (.missingValue flag)
      | value :: rest =>
        match readCount? value with
        | some value => gather (options.set value flag) rest
        | none => .error (.badValue flag)
    | none =>
      if argument = "--verbose" then gather { options with verbose := true } rest
      else gather { options with words := options.words ++ [argument] } rest

/-- Reads a command line.  Scopes must not start beyond their ceiling. -/
def parse (arguments : List String) : Except OptionError Options := do
  let options ← gather {} arguments
  if options.capacity ≤ options.maxCapacity then .ok options
  else .error (.capacityAboveMax options.capacity options.maxCapacity)

theorem capacity_le_of_parse {arguments : List String} {options : Options}
    (h : parse arguments = .ok options) : options.capacity ≤ options.maxCapacity := by
  unfold parse at h
  cases hgather : gather {} arguments with
  | error error => simp [hgather, bind, Except.bind] at h
  | ok gathered =>
    simp only [hgather, bind, Except.bind] at h
    split at h
    · rename_i hle
      simp only [Except.ok.injEq] at h
      rwa [← h]
    · simp at h

end Options

/-! ### Tasks -/

/-- Where a script comes from. -/
inductive Source where
  /-- The command line itself. -/
  | inline (text : String)
  | stdin
  | file (name : String)
  deriving DecidableEq

/-- What the inspector is asked to do. -/
inductive Task where
  | help
  | version
  | repl
  | script (source : Source)
  /-- A script was announced and not given. -/
  | noScript
  deriving DecidableEq

/-- The task that the words of a command line ask for; the first decides, and words that nothing
    asks for are passed over. -/
def Task.ofWords : List String → Task
  | [] => .repl
  | "-h" :: _ | "--help" :: _ => .help
  | "-v" :: _ | "--version" :: _ => .version
  | "-i" :: _ | "--repl" :: _ => .repl
  | ["-e"] => .noScript
  | "-e" :: text :: _ => .script (.inline text)
  | "-" :: _ => .script .stdin
  | name :: _ => .script (.file name)

end Frontend.Inspector
