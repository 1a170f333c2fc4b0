import Frontend.Inspector.Wording
import Frontend.Script.Run
import Frontend.Text.Backspace

namespace Frontend.Inspector

open Text (applyBackspaces splitWhere trim)

/-!
# Sessions

A session reads lines and carries them out on one table until it is told to leave, its input ends,
or the program is ended.

* `Chunk` — one piece of what the inspector puts out;
* `ReadError` — why a text could not be read, with its text;
* `Session σ` — a session under way;
* `Console` — what the lines are read from;
* `Control` — what a line asks the session itself for, as against the table;
* `Session.react` — what the next line, or the end of the input, does, and `Session.turn` the same
  after it has been asked for.
-/

/-! ### Output -/

/-- One piece of output.  Each kind goes its own way; together they are in the order in which they
    were put out. -/
inductive Chunk where
  /-- Text on standard output. -/
  | out (text : String)
  /-- Text on standard error. -/
  | err (text : String)
  /-- A line of the log. -/
  | event (event : Event)
  /-- The last line of the log. -/
  | fatal (cause : Fatal)
  /-- A line of the log from what reads the lines of a session. -/
  | remark (text : String)

/-- Why a text could not be read. -/
inductive ReadError where
  /-- The system refused, for a reason that has a number. -/
  | system (reason : String) (number : Nat)
  /-- The bytes are not UTF-8. -/
  | notText
  /-- The name holds a NUL, which no file has in its name. -/
  | badName
  deriving DecidableEq

/-- The text of a failure to read. -/
def ReadError.message : ReadError → String
  | system reason number => s!"{reason} (os error {number})"
  | notText => "stream did not contain valid UTF-8"
  | badName => "file name contained an unexpected NUL byte"

/-- There is no such file. -/
def ReadError.missing : ReadError := .system "No such file or directory" 2

/-- The text that bytes of UTF-8 spell. -/
def decode (bytes : ByteArray) : Except ReadError String :=
  match String.fromUTF8? bytes with
  | some text => .ok text
  | none => .error .notText

/-- Everything a script put out, in the order events, answers, last words. -/
def chunksOfRun {σ : Type} (run : Run σ Transcript) : Array Chunk :=
  run.events.map Chunk.event ++
    (if run.sink.text.isEmpty then #[] else #[.out run.sink.text]) ++
    (match run.stop with
      | some (.aborted cause) => #[.fatal cause]
      | _ => #[])

/-! ### Control lines -/

/-- What a line that starts with a dot asks the session for. -/
inductive Control where
  | leave
  | help
  | clear
  | load (name : String)
  /-- A file was to be run and not named. -/
  | loadNothing
  | unknown (word : String)
  deriving DecidableEq

/-- Reads a trimmed line: the word before the first space decides, all that stands after it is its
    argument. -/
def Control.ofLine (line : List Char) : Control :=
  let word := line.takeWhile (· != ' ')
  match String.ofList word with
  | ".exit" | ".quit" | ".q" => .leave
  | ".help" | ".h" => .help
  | ".clear" => .clear
  | ".load" =>
    match line.dropWhile (· != ' ') with
    | [] => .loadNothing
    | _ :: argument => .load (String.ofList (trim argument))
  | other => .unknown other

/-! ### Consoles -/

/-- What the lines of a session are read from. -/
inductive Console where
  /-- No terminal: a pipe or a file. -/
  | pipe
  /-- A terminal on which lines cannot be edited, or a pipe in its place. -/
  | plain
  /-- A terminal on which lines can be edited. -/
  | terminal
  deriving DecidableEq

/-- What is logged before every line, for debugging. -/
def Console.remark? : Console → Option String
  | pipe => some "stdin is not a tty"
  | plain => some "unsupported terminal"
  | terminal => none

/-- Whether every line is asked for with a prompt. -/
def Console.prompts : Console → Bool
  | pipe => false
  | plain | terminal => true

/-! ### Sessions -/

/-- Whether a session still reads. -/
inductive Status where
  | reading
  /-- It has come to its end. -/
  | left
  /-- The program was ended. -/
  | aborted
  deriving DecidableEq

/-- A session under way. -/
structure Session (σ : Type) where
  table : Table σ
  /-- What has been put out and not been taken away yet. -/
  output : Array Chunk := #[]
  status : Status := .reading

/-- What a session can read. -/
inductive Input where
  /-- A line, without what ends it. -/
  | line (text : String)
  /-- A line that is no text. -/
  | garbled
  | endOfInput
  deriving DecidableEq

/-- What stands before the place where a line is typed. -/
def prompt {σ : Type} (table : Table σ) : String :=
  match table.currentLevel? with
  | some level => s!"tinyc[{level}]> "
  | none => "tinyc[-]> "

namespace Session

variable {σ : Type}

/-- Puts out more. -/
def put (session : Session σ) (chunks : Array Chunk) : Session σ :=
  { session with output := session.output ++ chunks }

/-- Puts out what was reported. -/
def report (session : Session σ) (events : List Event) : Session σ :=
  session.put (events.toArray.map Chunk.event)

/-- Ends with the program. -/
def abort (session : Session σ) (cause : Fatal) : Session σ :=
  { session with status := .aborted }.put #[.fatal cause]

/-- Asks for a line, while the session reads. -/
def ask (console : Console) (session : Session σ) : Session σ :=
  match session.status with
  | .reading =>
    session.put
      ((console.remark?.map Chunk.remark).toArray ++
        (if console.prompts then #[.out (prompt session.table)] else #[]))
  | _ => session

variable [Allocator σ]

/-- Carries out one command and puts out its answer: successes and failures go different ways. -/
def command (session : Session σ) (line : String) : Session σ :=
  match session.status with
  | .reading =>
    match perform session.table line with
    | .done events (answer, table) =>
      let text := answerText answer ++ "\n"
      let session := { session with table }.report events
      match answer with
      | .ok _ => session.put #[.out text]
      | .error _ => session.put #[.err text]
    | .aborted events cause => (session.report events).abort cause
  | _ => session

/-- Runs a script on the session's table. -/
def load (session : Session σ) (name : String) (content : Except ReadError String) : Session σ :=
  match content with
  | .error error => session.put #[.err s!"Error reading file '{name}': {error.message}\n"]
  | .ok source =>
    let run := Script.run session.table ({} : Transcript) source
    let session := { session with table := run.table }.put (chunksOfRun run)
    match run.stop with
    | some _ => { session with status := .aborted }
    | none =>
      if run.failures = 0 then session
      else session.put #[.err s!"{run.failures} command(s) failed in {name}\n"]

/-- Empties the session's table. -/
def clear (session : Session σ) : Session σ :=
  match session.table.reset with
  | .done events table => ({ session with table }.report events).put #[.out "State cleared.\n"]
  | .aborted events cause => (session.report events).abort cause

/-- Obeys a control line.  Files are read with `read`, if their names can be names at all. -/
def obey (read : String → Except ReadError String) (session : Session σ) :
    Control → Session σ
  | .leave => { session with status := .left }.put #[.out farewell]
  | .help => session.put #[.out sessionHelp]
  | .clear => session.clear
  | .load name =>
    session.load name (if '\x00' ∈ name.toList then .error .badName else read name)
  | .loadNothing => session.put #[.err "Usage: .load <filename>\n"]
  | .unknown word =>
    session.put #[.err s!"Unknown command: {word}\nType .help for available commands.\n"]

/-- What the session does with the next line, or with the end of its input.  A blank line does
    nothing, a line that starts with a dot is for the session, and any other line holds commands. -/
def react (read : String → Except ReadError String) (session : Session σ) (input : Input) :
    Session σ :=
  match session.status, input with
  | .reading, .line text =>
    match trim text.toList with
    | [] => session
    | '.' :: rest => session.obey read (Control.ofLine ('.' :: rest))
    | line => (Script.split (String.ofList line)).foldl command session
  | .reading, .garbled =>
    { session with status := .left }.put
      #[.err "Error: Io(Error \x7b kind: InvalidData, message: \"stream did not contain valid UTF-8\" \x7d)\n"]
  | .reading, .endOfInput => { session with status := .left }.put #[.out farewell]
  | _, _ => session

/-- One round of a session: it asks for a line and reacts to what it gets. -/
def turn (console : Console) (read : String → Except ReadError String) (session : Session σ)
    (input : Input) : Session σ :=
  (session.ask console).react read input

end Session

/-! ### Lines -/

/-- What a line of bytes is to a session.  Of a line that has been `ended` by a newline, a carriage
    return before it is not part.  Backspaces have taken effect. -/
def Input.ofLine (bytes : List UInt8) (ended : Bool) : Input :=
  let content := if ended && bytes.getLast? == some 13 then bytes.dropLast else bytes
  match decode ⟨content.toArray⟩ with
  | .ok text => .line (String.ofList (applyBackspaces text.toList))
  | .error _ => .garbled

/-- The inputs of a session that reads these bytes: a line for each newline, one more for what
    follows the last newline unless that is nothing, and the end. -/
def inputs (bytes : ByteArray) : List Input :=
  let pieces := splitWhere (· == 10) bytes.toList
  let last := pieces.getLastD []
  pieces.dropLast.map (Input.ofLine · true) ++
    (if last.isEmpty then [] else [Input.ofLine last false]) ++ [.endOfInput]

end Frontend.Inspector
