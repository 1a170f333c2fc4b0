import Frontend.Inspector.Log
import Frontend.Inspector.Options
import Frontend.Inspector.Session

namespace Frontend.Inspector

/-!
# The inspector from start to end

* `startUp` — from a command line to a table and a task;
* `finishScript` — a script, once it has been read or has turned out to be unreadable;
* `opening` — what a task puts out before it reads anything;
* `Exit` — how the program ends;
* `Surroundings` — all that the program is given, and `run` all that it puts out.

Every task makes the table first, so that even a request for help logs the opening of a scope and
ends the program if that scope is denied.
-/

/-- How the program ends. -/
inductive Exit where
  | code (code : Nat)
  /-- The program was ended by a fatal condition. -/
  | aborted
  deriving DecidableEq

/-- What stands between the command line and the task. -/
inductive StartUp where
  /-- The command line was refused: what to put out, on standard error. -/
  | refused (error : OptionError)
  /-- The table could not be made. -/
  | aborted (options : Options) (events : List Event) (cause : Fatal)
  /-- A table is ready for the task. -/
  | ready (options : Options) (events : List Event) (table : Table Capped) (task : Task)

/-- Reads a command line and makes the table it describes, under the ceiling it describes. -/
def startUp (arguments : List String) : StartUp :=
  match Options.parse arguments with
  | .error error => .refused error
  | .ok options =>
    match Table.create options.capacity (Capped.mk options.maxCapacity) with
    | .aborted events cause => .aborted options events cause
    | .done events table => .ready options events table (Task.ofWords options.words)

/-! ### Scripts -/

/-- What is said when a script cannot be read. -/
def unreadableText (source : Source) (error : ReadError) : String :=
  match source with
  | .inline _ => ""
  | .stdin => s!"Error reading stdin: {error.message}\n"
  | .file name => s!"Error reading file '{name}': {error.message}\n"

/-- Runs a script that has been read, or says why it has not.  Any failure shows in the exit
    code. -/
def finishScript (table : Table Capped) (source : Source) (content : Except ReadError String) :
    Array Chunk × Exit :=
  match content with
  | .error error => (#[.err (unreadableText source error)], .code 1)
  | .ok text =>
    let run := Script.run table ({} : Transcript) text
    let chunks := chunksOfRun run
    match run.stop with
    | some _ => (chunks, .aborted)
    | none =>
      if run.failures = 0 then (chunks, .code 0)
      else (chunks.push (.err s!"{run.failures} command(s) failed\n"), .code 1)

/-! ### Tasks -/

/-- What a task puts out before it reads anything, and how the program ends unless reading changes
    that. -/
def opening : Task → Array Chunk × Exit
  | .help => (#[.out usageText], .code 0)
  | .version => (#[.out versionText], .code 0)
  | .noScript => (#[.err noScriptText], .code 1)
  | .repl => (#[.out banner], .code 0)
  | .script _ => (#[], .code 0)

/-- How the program ends after a session. -/
def Status.exit : Status → Exit
  | .reading | .left => .code 0
  | .aborted => .aborted

/-! ### Whole runs -/

/-- All that the program is given. -/
structure Surroundings where
  /-- The command line, without the name of the program. -/
  arguments : List String
  /-- The bytes on standard input. -/
  stdin : ByteArray := .empty
  /-- The bytes of the files there are. -/
  file : String → Except ReadError ByteArray
  /-- How the environment sets the log. -/
  logSetting : Option String := none
  /-- What the lines of a session are read from. -/
  console : Console := .pipe

/-- Reads a file as text. -/
def Surroundings.readText (surroundings : Surroundings) (name : String) :
    Except ReadError String := do
  let bytes ← surroundings.file name
  decode bytes

/-- Reads the text of a script, wherever it comes from. -/
def Surroundings.readSource (surroundings : Surroundings) : Source → Except ReadError String
  | .inline text => .ok text
  | .stdin => decode surroundings.stdin
  | .file name => surroundings.readText name

/-- A whole session: the banner, then every input after it has been asked for. -/
def Surroundings.runSession (surroundings : Surroundings) (table : Table Capped) :
    Session Capped :=
  (inputs surroundings.stdin).foldl (Session.turn surroundings.console surroundings.readText)
    { table, output := (opening .repl).1 }

/-- Carries out a task on the table made for it. -/
def Surroundings.perform (surroundings : Surroundings) (table : Table Capped) :
    Task → Array Chunk × Exit
  | .script source => finishScript table source (surroundings.readSource source)
  | .repl =>
    let session := surroundings.runSession table
    (session.output, session.status.exit)
  | task => opening task

/-- What the program leaves behind. -/
structure Report where
  exit : Exit
  stdout : String
  stderr : String
  deriving DecidableEq

/-- What a piece of output adds to standard error. -/
def Chunk.onStderr (filter : LogFilter) : Chunk → String
  | .out _ => ""
  | .err text => text
  | .event seen => filter.line .table seen.severity seen.message
  | .fatal cause => filter.line .table .error cause.message
  | .remark text => filter.line .lineReader .debug text

/-- What a piece of output adds to standard output. -/
def Chunk.onStdout : Chunk → String
  | .out text => text
  | _ => ""

/-- Sends every piece of output its way. -/
def report (filter : LogFilter) (chunks : Array Chunk) (exit : Exit) : Report where
  exit
  stdout := String.join (chunks.toList.map Chunk.onStdout)
  stderr := String.join (chunks.toList.map (Chunk.onStderr filter))

/-- Runs the program. -/
def run (surroundings : Surroundings) : Report :=
  match startUp surroundings.arguments with
  | .refused error =>
    report (.uniform .off) #[.err s!"Error: {error.message}\n"] (.code 1)
  | .aborted options events cause =>
    report (.choose surroundings.logSetting options.verbose)
      ((events.toArray.map Chunk.event).push (.fatal cause)) .aborted
  | .ready options events table task =>
    let (chunks, exit) := surroundings.perform table task
    report (.choose surroundings.logSetting options.verbose)
      (events.toArray.map Chunk.event ++ chunks) exit

end Frontend.Inspector
