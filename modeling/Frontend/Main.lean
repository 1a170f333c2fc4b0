import Frontend.Inspector.Program

namespace Frontend.Inspector

/-!
# The inspector as a program

Reading and printing around `Frontend.Inspector`: the command line, the environment, files, the
standard streams, and the exit code.  A session prints after every line it reads.
-/

/-- The exit code of a program ended by a fatal condition. -/
def abortCode : UInt32 := 134

/-- Prints one piece of output. -/
def emit (filter : LogFilter) (chunk : Chunk) : IO Unit := do
  IO.print chunk.onStdout
  IO.eprint (chunk.onStderr filter)

/-- Why the system would not hand over a file. -/
def readErrorOf : IO.Error → ReadError
  | .noFileOrDirectory .. => .missing
  | .permissionDenied .. => .system "Permission denied" 13
  | .inappropriateType _ number reason => .system reason number.toNat
  | .invalidArgument _ number reason => .system reason number.toNat
  | .otherError number reason => .system reason number.toNat
  | error => .system (toString error) 0

/-- Reads a file as text. -/
def readFile (name : String) : IO (Except ReadError String) := do
  try
    return decode (← IO.FS.readBinFile name)
  catch error =>
    return .error (readErrorOf error)

/-- Reads a stream to its end. -/
partial def readToEnd (stream : IO.FS.Stream) (bytes : ByteArray) : IO ByteArray := do
  let more ← stream.read 65536
  if more.isEmpty then return bytes else readToEnd stream (bytes ++ more)

/-- Reads a line of bytes, and whether a newline ended it. -/
partial def readLine (stream : IO.FS.Stream) (bytes : Array UInt8) : IO (Array UInt8 × Bool) := do
  let next ← stream.read 1
  match next.toList with
  | [] => return (bytes, false)
  | byte :: _ => if byte == 10 then return (bytes, true) else readLine stream (bytes.push byte)

/-- The text of the file that a line asks a session to run. -/
def readLoaded (input : Input) : IO (Except ReadError String) :=
  match input with
  | .line text =>
    match Control.ofLine (Text.trim text.toList) with
    | .load name => readFile name
    | _ => pure (.ok "")
  | _ => pure (.ok "")

/-- Runs a session from where it stands until it stops reading. -/
partial def converse (filter : LogFilter) (console : Console) (session : Session Capped) :
    IO Status := do
  let session := session.ask console
  session.output.forM (emit filter)
  (← IO.getStdout).flush
  match session.status with
  | .reading =>
    let (bytes, ended) ← readLine (← IO.getStdin) #[]
    let input :=
      if bytes.isEmpty && !ended then .endOfInput else Input.ofLine bytes.toList ended
    let loaded ← readLoaded input
    converse filter console ({ session with output := #[] }.react (fun _ => loaded) input)
  | status => return status

/-- What lines are read from, judged by the name of the terminal. -/
def consoleFor (name : Option String) (isTerminal : Bool) : Console :=
  if ["dumb", "cons25", "emacs"].contains ((name.getD "").toLower) then .plain
  else if isTerminal then .terminal
  else .pipe

/-- Reads the text of a script, wherever it comes from. -/
def readSource (source : Source) : IO (Except ReadError String) :=
  match source with
  | .inline text => pure (.ok text)
  | .stdin => do
    let bytes ← readToEnd (← IO.getStdin) .empty
    return decode bytes
  | .file name => readFile name

/-- Carries out a task on the table made for it. -/
def carryOut (filter : LogFilter) (table : Table Capped) (task : Task) : IO Exit := do
  match task with
  | .script source =>
    let (chunks, exit) := finishScript table source (← readSource source)
    chunks.forM (emit filter)
    return exit
  | .repl =>
    let console := consoleFor (← IO.getEnv "TERM") (← (← IO.getStdin).isTty)
    let status ← converse filter console { table, output := (opening .repl).1 }
    return status.exit
  | task =>
    let (chunks, exit) := opening task
    chunks.forM (emit filter)
    return exit

/-- Runs the program and gives its exit code. -/
def runMain (arguments : List String) : IO UInt32 := do
  let setting ← IO.getEnv "RUST_LOG"
  match startUp arguments with
  | .refused error =>
    IO.eprint s!"Error: {error.message}\n"
    return 1
  | .aborted options events cause =>
    let filter := LogFilter.choose setting options.verbose
    events.forM fun event => emit filter (.event event)
    emit filter (.fatal cause)
    return abortCode
  | .ready options events table task =>
    let filter := LogFilter.choose setting options.verbose
    events.forM fun event => emit filter (.event event)
    match ← carryOut filter table task with
    | .code code => return code.toUInt32
    | .aborted => return abortCode

end Frontend.Inspector

/-- Runs the inspector. -/
def main (arguments : List String) : IO UInt32 :=
  Frontend.Inspector.runMain arguments
