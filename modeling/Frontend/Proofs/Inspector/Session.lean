import Frontend.Inspector.Session
import Frontend.Proofs.Script.Exchanges
import Frontend.Proofs.Script.Join
import Frontend.Proofs.Table.Effect

namespace Frontend

open Text (trim)

/-!
# Sessions and scripts

A session that is given the lines of a script, none of them meant for the session itself, does
what running the script does.

* `split_trim`, `split_intercalate` — the commands of a text are those of its lines, trimmed or not;
* `Session.react_line` — a session carries out the commands of a line;
* `answerChunk` — where a session puts an answer;
* `Session.Tracks` — a session has done what a script has done so far;
* `session_eq_script` — it has done so at the end of its input.
-/

/-! ### The commands of lines -/

namespace Script

/-- The commands of a text do not depend on the blanks around it. -/
theorem split_trim (text : String) : split (String.ofList (trim text.toList)) = split text := by
  simp only [split, commands_eq_scan, String.toList_ofList, scan_trim]

/-- The commands of joined lines are those of each line in turn. -/
theorem split_intercalate (lines : List String) :
    split ("\n".intercalate lines) = lines.flatMap split := by
  induction lines with
  | nil => rfl
  | cons line rest ih =>
    cases rest with
    | nil => simp
    | cons next rest =>
      rw [String.intercalate_cons_cons, split_append_newline, ih]
      rfl

end Script

namespace Inspector

variable {σ : Type} [Allocator σ]

/-! ### One line of a session -/

namespace Session

/-- A session that does not read any more carries out no command. -/
theorem foldl_command_of_status {session : Session σ} (h : session.status ≠ .reading)
    (lines : List String) : lines.foldl command session = session := by
  induction lines with
  | nil => rfl
  | cons line rest ih =>
    have hnothing : session.command line = session := by
      unfold command
      split
      · contradiction
      · rfl
    rw [List.foldl_cons, hnothing, ih]

/-- **A session carries out the commands of a line that is not meant for itself.** -/
theorem react_line (read : String → Except ReadError String) (session : Session σ) {text : String}
    (htext : (trim text.toList).head? ≠ some '.') :
    session.react read (.line text) = (Script.split text).foldl command session := by
  by_cases hreading : session.status = .reading
  · rw [← Script.split_trim]
    simp only [react, hreading]
    split
    · rename_i hblank
      rw [hblank]
      rfl
    · rename_i rest hdot
      exact absurd (by rw [hdot]; rfl) htext
    · rfl
  · rw [foldl_command_of_status hreading]
    unfold react
    -- All but the last case are about a session that reads.
    split
    · contradiction
    · contradiction
    · contradiction
    · rfl

/-- A session that is given lines, none of them meant for itself, carries out the commands of all
    of them. -/
theorem foldl_react (read : String → Except ReadError String) (session : Session σ)
    {lines : List String} (hlines : ∀ line ∈ lines, (trim line.toList).head? ≠ some '.') :
    (lines.map Input.line).foldl (react read) session =
      (lines.flatMap Script.split).foldl command session := by
  induction lines generalizing session with
  | nil => rfl
  | cons line rest ih =>
    rw [List.map_cons, List.foldl_cons, react_line read session (hlines line List.mem_cons_self),
      ih _ fun other hother => hlines other (List.mem_cons_of_mem _ hother), List.flatMap_cons,
      List.foldl_append]

end Session

/-! ### Answers -/

/-- Where a session puts an answer: a success on standard output, a failure on standard error. -/
def answerChunk : Answer → Chunk
  | .ok text => .out (text ++ "\n")
  | .error error => .err s!"error: {error.message}\n"

namespace Chunk

/-- Whether something is put out for the user, rather than for the log. -/
def isShown : Chunk → Bool
  | out _ | err _ => true
  | event _ | fatal _ | remark _ => false

/-- What is reported to the log. -/
def event? : Chunk → Option Event
  | event reported => some reported
  | out _ | err _ | fatal _ | remark _ => none

@[simp] theorem isShown_event (reported : Event) : (event reported).isShown = false := rfl

@[simp] theorem event?_event (reported : Event) : (event reported).event? = some reported := rfl

@[simp] theorem isShown_answerChunk (answer : Answer) : (answerChunk answer).isShown = true := by
  cases answer <;> rfl

@[simp] theorem event?_answerChunk (answer : Answer) : (answerChunk answer).event? = none := by
  cases answer <;> rfl

end Chunk

namespace Session

/-- A session has done what a script has done that has given these answers so far. -/
structure Tracks (session : Session σ) (run : Run σ Transcript) (answers : List Answer) : Prop where
  table : session.table = run.table
  status : session.status = if run.stop = none then .reading else .aborted
  shown : session.output.toList.filter Chunk.isShown = answers.map answerChunk
  events : session.output.toList.filterMap Chunk.event? = run.events.toList

namespace Tracks

variable {session : Session σ} {run : Run σ Transcript} {answers : List Answer}

omit [Allocator σ] in
/-- Asking for a line from a pipe is nothing to a script. -/
theorem ask (h : Tracks session run answers) : Tracks (session.ask .pipe) run answers := by
  unfold Session.ask
  split
  · exact { h with
      shown := by simpa [put, Console.remark?, Console.prompts, Chunk.isShown] using h.shown
      events := by
        simpa [put, Console.remark?, Console.prompts, Chunk.event?, List.filterMap_cons]
          using h.events }
  · exact h

/-- One command has the same effect and the same answer in a session and in a script. -/
theorem command (h : Tracks session run answers) (line : String) :
    Tracks (session.command line) (run.step line)
      (answers ++ (Script.exchanges run [line]).map Prod.snd) := by
  -- Either the program has been ended before, or this command ends it, or it is answered.
  cases hstop : run.stop with
  | some stop =>
    have hstatus : session.status = .aborted := by simpa [hstop] using h.status
    have hcommand : session.command line = session := by simp only [Session.command, hstatus]
    have hstep : run.step line = run := by simp only [Run.step, hstop]
    rw [hcommand, hstep, Script.exchanges_of_stop hstop, List.map_nil, List.append_nil]
    exact h
  | none =>
    have hstatus : session.status = .reading := by simpa [hstop] using h.status
    cases hperform : perform run.table line with
    | aborted reported cause =>
      have hcommand : session.command line = (session.report reported).abort cause := by
        simp only [Session.command, hstatus, h.table, hperform]
      have hstep : run.step line =
          { run with events := run.events ++ reported, stop := some (.aborted cause) } := by
        simp only [Run.step, hstop, hperform]
      have hmade : Script.exchanges run [line] = [] := by
        simp only [Script.exchanges, hstop, hperform]
      rw [hcommand, hstep, hmade]
      exact
        { table := h.table
          status := rfl
          shown := by simp [abort, report, put, h.shown, Chunk.isShown]
          events := by
            simp [abort, report, put, h.events, List.filterMap_cons, Function.comp_def,
              Chunk.event?] }
    | done reported result =>
      obtain ⟨answer, next⟩ := result
      have hcommand : session.command line =
          ({ session with table := next }.report reported).put #[answerChunk answer] := by
        simp only [Session.command, hstatus, h.table, hperform]
        cases answer <;> rfl
      have hmade : Script.exchanges run [line] = [(line, answer)] := by
        simp only [Script.exchanges, hstop, hperform]
      rw [hcommand, hmade, Script.step_transcript hstop hperform]
      exact
        { table := rfl
          status := hstatus
          shown := by simp [report, put, h.shown]
          events := by simp [report, put, h.events, Function.comp_def] }

/-- So do many commands. -/
theorem commands (h : Tracks session run answers) (lines : List String) :
    Tracks (lines.foldl Session.command session) (lines.foldl Run.step run)
      (answers ++ (Script.exchanges run lines).map Prod.snd) := by
  induction lines generalizing session run answers with
  | nil => simpa [Script.exchanges] using h
  | cons line rest ih =>
    have hmade := Script.exchanges_append run [line] rest
    rw [List.singleton_append] at hmade
    rw [hmade, List.map_append, ← List.append_assoc]
    exact ih (h.command line)

/-- What a session does with lines that are not meant for itself is what a script does with their
    commands. -/
theorem turns (h : Tracks session run answers) (read : String → Except ReadError String)
    {lines : List String} (hlines : ∀ line ∈ lines, (trim line.toList).head? ≠ some '.') :
    Tracks ((lines.map Input.line).foldl (turn .pipe read) session)
      ((lines.flatMap Script.split).foldl Run.step run)
      (answers ++ (Script.exchanges run (lines.flatMap Script.split)).map Prod.snd) := by
  induction lines generalizing session run answers with
  | nil => simpa [Script.exchanges] using h
  | cons line rest ih =>
    have hline := react_line read (session.ask .pipe) (hlines line List.mem_cons_self)
    have hrest := fun other hother => hlines other (List.mem_cons_of_mem line hother)
    rw [List.map_cons, List.foldl_cons, turn, hline, List.flatMap_cons, List.foldl_append,
      Script.exchanges_append, List.map_append, ← List.append_assoc]
    exact ih (h.ask.commands _) hrest

/-- At the end of its input a session says farewell, unless the program has been ended. -/
theorem react_endOfInput (h : Tracks session run answers)
    (read : String → Except ReadError String) :
    (session.react read .endOfInput).table = run.table ∧
      (session.react read .endOfInput).status = (if run.stop = none then .left else .aborted) ∧
      (session.react read .endOfInput).output.toList.filter Chunk.isShown =
        answers.map answerChunk ++ (if run.stop = none then [.out farewell] else []) ∧
      (session.react read .endOfInput).output.toList.filterMap Chunk.event? =
        run.events.toList := by
  have hstatus := h.status
  cases hstop : run.stop with
  | none =>
    rw [hstop, if_pos rfl] at hstatus
    simp [react, hstatus, put, h.table, h.shown, h.events, Chunk.isShown, Chunk.event?,
      List.filterMap_cons]
  | some stop =>
    rw [hstop, if_neg (by simp)] at hstatus
    simp [react, hstatus, h.table, h.shown, h.events]

end Tracks

/-! ### Whole sessions -/

/-- **A session does what a script does.**  A session that reads lines from a pipe, none of them
    meant for itself, carries out the very commands of the joined lines, and comes by the same
    answers, reports and table as a script of these lines.  The script writes every answer to its
    sink; the session puts the successes on standard output and the failures on standard error, in
    the same order, and says farewell.  If a command ends the program, it ends both. -/
theorem session_eq_script (table : Table σ) (read : String → Except ReadError String)
    {lines : List String} (hlines : ∀ line ∈ lines, (trim line.toList).head? ≠ some '.') :
    let source := "\n".intercalate lines
    let script := Script.run table ({} : Transcript) source
    let made := Script.exchanges { table, sink := ({} : Transcript) } (Script.split source)
    let session := (lines.map Input.line ++ [Input.endOfInput]).foldl (turn .pipe read) { table }
    (∀ other : Session σ, (lines.map Input.line).foldl (react read) other =
        (Script.split source).foldl command other) ∧
      (script.stop = none → made.map Prod.fst = Script.split source) ∧
      script.sink.text = Script.transcriptText (made.map Prod.snd) ∧
      session.output.toList.filter Chunk.isShown = (made.map Prod.snd).map answerChunk ++
        (if script.stop = none then [.out farewell] else []) ∧
      session.output.toList.filterMap Chunk.event? = script.events.toList ∧
      session.table = script.table ∧
      session.status = (if script.stop = none then .left else .aborted) := by
  intro source script made session
  have hsplit : Script.split source = lines.flatMap Script.split := Script.split_intercalate lines
  have hstart : Tracks { table } { table, sink := ({} : Transcript) } [] := ⟨rfl, rfl, rfl, rfl⟩
  have hlast := (hstart.turns read hlines).ask
  rw [← hsplit, List.nil_append] at hlast
  change Tracks _ script (made.map Prod.snd) at hlast
  have hsession : session =
      (((lines.map Input.line).foldl (turn .pipe read) { table }).ask .pipe).react read
        .endOfInput :=
    List.foldl_append
  have hcommands (hgoes : script.stop = none) : made.map Prod.fst = Script.split source :=
    Script.map_fst_exchanges hgoes
  have hscript : script = Script.run table {} source := rfl
  have htext : script.sink.text = Script.transcriptText (made.map Prod.snd) := by
    rw [hscript]
    exact Script.text_run table source
  clear_value script made session
  obtain ⟨htable, hstatus, hshown, hevents⟩ := hlast.react_endOfInput read
  rw [← hsession] at htable hstatus hshown hevents
  refine ⟨fun other => ?_, hcommands, htext, hshown, hevents, htable, hstatus⟩
  rw [hsplit]
  exact foldl_react read other hlines

/-- Blank lines, comments and carriage returns make no difference, and a word that would end the
    session at the beginning of a line is an unknown command anywhere else. -/
theorem session_eq_script_with_dot_command :
    let table := (Table.blank 10 ({} : Heap)).opened
    let read := fun _ => Except.error ReadError.missing
    let lines := [" int x # \x7b\r", "\u00a0", "lookup x; .exit // y", "\x7d;\r", "int z"]
    let script := Script.run table ({} : Transcript) ("\n".intercalate lines)
    let session := (lines.map Input.line ++ [Input.endOfInput]).foldl (turn .pipe read) { table }
    (∀ line ∈ lines, (trim line.toList).head? ≠ some '.') ∧
      session.output.toList.filter Chunk.isShown =
        [.out "Inserted 'x' (INT) at level 0\n", .out "x: INT (level 0)\n",
          .err "error: Unknown command: .exit\n", .out "Closed scope level 0\n",
          .err "error: No active scope\n", .out "Goodbye!\n"] ∧
      session.table = script.table ∧ session.status = .left := by
  intro table read lines script session
  have hlines : ∀ line ∈ lines, (trim line.toList).head? ≠ some '.' := by decide +kernel
  have hsession := session_eq_script table read hlines
  dsimp only at hsession
  obtain ⟨-, -, -, hshown, -, htable, hstatus⟩ := hsession
  have hgoes : (Script.run table ({} : Transcript) ("\n".intercalate lines)).stop = none := by
    decide +kernel
  have hmade : (Script.exchanges { table, sink := ({} : Transcript) }
      (Script.split ("\n".intercalate lines))).map Prod.snd =
      [.ok "Inserted 'x' (INT) at level 0", .ok "x: INT (level 0)",
        .error (.unknown ".exit"), .ok "Closed scope level 0",
        .error (.table .noActiveScope)] := by
    decide +kernel
  rw [hgoes, if_pos rfl] at hshown hstatus
  refine ⟨hlines, ?_, htable, hstatus⟩
  rw [hshown, hmade]
  rfl

end Session

end Inspector

end Frontend
