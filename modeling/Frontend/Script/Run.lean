import Frontend.Script.Execute
import Frontend.Script.Split
import Frontend.Sink

namespace Frontend

/-!
# Running scripts

* `perform` — reads one line and carries it out;
* `answerText` — what is written for a line;
* `Run σ τ` — a script being run on a table, writing to a sink, and `Run.step` its next command;
* `Script.run` — a whole script.

A command that fails is reported and counted, and the script goes on; it stops only when the sink
takes no more, or when the program is ended.
-/

variable {σ τ : Type} [Allocator σ] [Sink τ]

/-- Reads one line as a command and carries it out. -/
def perform (table : Table σ) (line : String) : Outcome (Except CommandError String × Table σ) :=
  match Command.parse line with
  | .ok command => command.execute table
  | .error error => pure (.error error, table)

/-- What is written for a line, without the end of the line. -/
def answerText : Except CommandError String → String
  | .ok text => text
  | .error error => s!"error: {error.message}"

/-- Why a script stopped before its end. -/
inductive Stop where
  /-- The sink did not take all of an answer. -/
  | sinkFull
  /-- The program was ended. -/
  | aborted (cause : Fatal)
  deriving DecidableEq

/-- A script being run. -/
structure Run (σ τ : Type) where
  table : Table σ
  sink : τ
  /-- The events reported so far. -/
  events : Array Event := #[]
  /-- How many commands have failed so far. -/
  failures : Nat := 0
  /-- Why no further command is run; `none` while the script goes on. -/
  stop : Option Stop := none

namespace Run

/-- The next command of a script.  What it did to the table stays done even if its answer is not
    taken, and after a stop nothing is done any more. -/
def step (run : Run σ τ) (line : String) : Run σ τ :=
  match run.stop with
  | some _ => run
  | none =>
    match perform run.table line with
    | .aborted events cause =>
      { run with events := run.events ++ events, stop := some (.aborted cause) }
    | .done events (answer, table) =>
      let (taken, sink) := Sink.write run.sink (answerText answer ++ "\n")
      { table, sink
        events := run.events ++ events
        failures := match answer with
          | .ok _ => run.failures
          | .error _ => run.failures + 1
        stop := if taken then none else some .sinkFull }

/-- Nothing is done after a stop. -/
theorem foldl_step_of_stop {run : Run σ τ} {stop : Stop} (h : run.stop = some stop)
    (lines : List String) : lines.foldl step run = run := by
  induction lines with
  | nil => rfl
  | cons line lines ih => rw [List.foldl_cons, step, h]; exact ih

end Run

namespace Script

/-- Runs commands that have been cut apart already. -/
def runCommands (table : Table σ) (sink : τ) (lines : List String) : Run σ τ :=
  lines.foldl Run.step { table, sink }

/-- Runs a script on a table and writes an answer for every command to a sink. -/
def run (table : Table σ) (sink : τ) (source : String) : Run σ τ :=
  runCommands table sink (split source)

end Script

end Frontend
