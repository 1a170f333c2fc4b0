import Frontend.Proofs.Script.Perform
import Frontend.Proofs.Trace

namespace Frontend.Script

/-!
# Scripts as exchanges

What a script did, told by its lines and their answers alone.

* `Exchange` — a line together with its answer;
* `exchanges` — the lines of a script that are carried out, with their answers;
* `LeadsTo` — the exchanges that lead from one table to another, as a trace;
* `leadsTo_exchanges` — the exchanges of a script lead to the table it leaves, however it stops,
  and `sink_foldl_step` says that they are also what it wrote;
* `exchanges_of_leadsTo`, `foldl_step_of_leadsTo` — exchanges that lead to a table can be had
  again, by running their lines.
-/

/-- A line together with its answer. -/
abbrev Exchange := String × Answer

variable {σ τ : Type} [Allocator σ] [Sink τ]

/-! ### Writing answers -/

/-- A sink after some answers, each on a line of its own, have been written to it. -/
def writeAnswers (sink : τ) (answers : List Answer) : τ :=
  answers.foldl (fun sink answer => (Sink.write sink (answerText answer ++ "\n")).2) sink

@[simp] theorem writeAnswers_nil (sink : τ) : writeAnswers sink [] = sink := rfl

@[simp] theorem writeAnswers_cons (sink : τ) (answer : Answer) (answers : List Answer) :
    writeAnswers sink (answer :: answers) =
      writeAnswers (Sink.write sink (answerText answer ++ "\n")).2 answers := rfl

theorem writeAnswers_append (sink : τ) (first second : List Answer) :
    writeAnswers sink (first ++ second) = writeAnswers (writeAnswers sink first) second :=
  List.foldl_append

/-! ### The exchanges of a script -/

/-- The lines that are carried out, up to one that stops the script, with their answers. -/
def exchanges (run : Run σ τ) : List String → List Exchange
  | [] => []
  | line :: rest =>
    match run.stop, perform run.table line with
    | none, .done _ (answer, _) => (line, answer) :: exchanges (run.step line) rest
    | _, _ => []

/-- After a stop nothing is exchanged any more. -/
theorem exchanges_of_stop {run : Run σ τ} {stop : Stop} (h : run.stop = some stop)
    (lines : List String) : exchanges run lines = [] := by
  cases lines with
  | nil => rfl
  | cons line rest => rw [exchanges, h]

/-- A line is carried out and the rest of the script follows, or nothing is done any more. -/
theorem exchanges_cons (run : Run σ τ) (line : String) (rest : List String) :
    (∃ events answer, run.stop = none ∧
      perform run.table line = .done events (answer, (run.step line).table) ∧
      (run.step line).sink = (Sink.write run.sink (answerText answer ++ "\n")).2 ∧
      exchanges run (line :: rest) = (line, answer) :: exchanges (run.step line) rest) ∨
    (exchanges run (line :: rest) = [] ∧
      ∃ (events : List Event) (stop : Stop), (line :: rest).foldl Run.step run =
        { run with events := run.events ++ events, stop := some stop }) := by
  cases hstop : run.stop with
  | some stop =>
    refine .inr ⟨exchanges_of_stop hstop _, [], stop, ?_⟩
    rw [Run.foldl_step_of_stop hstop, Array.appendList_nil, ← hstop]
  | none =>
    cases hperform : perform run.table line with
    | aborted events cause =>
      have hstep : run.step line =
          { run with events := run.events ++ events, stop := some (.aborted cause) } := by
        simp only [Run.step, hstop, hperform]
      refine .inr ⟨by rw [exchanges, hstop, hperform], events, .aborted cause, ?_⟩
      rw [List.foldl_cons, hstep, Run.foldl_step_of_stop rfl]
    | done events result =>
      obtain ⟨answer, next⟩ := result
      have htable : (run.step line).table = next := by simp only [Run.step, hstop, hperform]
      refine .inl ⟨events, answer, rfl, by rw [htable], ?_, by rw [exchanges, hstop, hperform]⟩
      simp only [Run.step, hstop, hperform]

/-- Later lines are exchanged where the earlier ones have led. -/
theorem exchanges_append (run : Run σ τ) (first second : List String) :
    exchanges run (first ++ second) =
      exchanges run first ++ exchanges (first.foldl Run.step run) second := by
  induction first generalizing run with
  | nil => rfl
  | cons line rest ih =>
    rw [List.cons_append, List.foldl_cons]
    cases hstop : run.stop with
    | some stop =>
      have hstep : run.step line = run := by rw [Run.step, hstop]
      rw [hstep, Run.foldl_step_of_stop hstop, exchanges_of_stop hstop, exchanges_of_stop hstop,
        exchanges_of_stop hstop]
      rfl
    | none =>
      cases hperform : perform run.table line with
      | aborted events cause =>
        -- The script is stopped here, and neither this line nor any later one is exchanged.
        have hstopped : (run.step line).stop = some (.aborted cause) := by
          simp only [Run.step, hstop, hperform]
        rw [Run.foldl_step_of_stop hstopped, exchanges_of_stop hstopped, exchanges, exchanges,
          hstop, hperform]
        rfl
      | done events result =>
        rw [exchanges, exchanges, hstop, hperform]
        exact congrArg _ (ih _)

/-- The lines carried out are the first of the script. -/
theorem map_fst_exchanges_initial (run : Run σ τ) (lines : List String) :
    (exchanges run lines).map Prod.fst <+: lines := by
  induction lines generalizing run with
  | nil => exact List.prefix_rfl
  | cons line rest ih =>
    rcases exchanges_cons run line rest with ⟨_, _, _, _, _, hmade⟩ | ⟨hmade, _⟩
    · rw [hmade]
      exact List.cons_prefix_cons.mpr ⟨rfl, ih _⟩
    · rw [hmade]
      exact List.nil_prefix

/-- A script that goes on to its end has all its lines carried out. -/
theorem map_fst_exchanges {run : Run σ τ} {lines : List String}
    (hgoes : (lines.foldl Run.step run).stop = none) :
    (exchanges run lines).map Prod.fst = lines := by
  induction lines generalizing run with
  | nil => rfl
  | cons line rest ih =>
    rcases exchanges_cons run line rest with ⟨_, _, _, _, _, hmade⟩ | ⟨_, _, _, hend⟩
    · rw [hmade, List.map_cons, ih hgoes]
    · rw [hend] at hgoes
      cases hgoes

/-- What a script writes is its answers. -/
theorem sink_foldl_step (run : Run σ τ) (lines : List String) :
    (lines.foldl Run.step run).sink =
      writeAnswers run.sink ((exchanges run lines).map Prod.snd) := by
  induction lines generalizing run with
  | nil => rfl
  | cons line rest ih =>
    rcases exchanges_cons run line rest with ⟨_, answer, _, _, hsink, hmade⟩ | ⟨hmade, _, _, hend⟩
    · rw [hmade, List.map_cons, writeAnswers_cons, ← hsink]
      exact ih _
    · rw [hmade, hend]
      rfl

/-- A line that fails is counted. -/
theorem failures_step {run : Run σ τ} {next : Table σ} {line : String} {events : List Event}
    {answer : Answer} (hgoes : run.stop = none)
    (hperform : perform run.table line = .done events (answer, next)) :
    (run.step line).failures = run.failures + [answer].countP fun answer => !answer.isOk := by
  simp only [Run.step, hgoes, hperform]
  cases answer <;> rfl

/-- What a script counts is its failures, wherever it writes to and however it stops. -/
theorem failures_foldl_step (run : Run σ τ) (lines : List String) :
    (lines.foldl Run.step run).failures =
      run.failures + ((exchanges run lines).map Prod.snd).countP fun answer => !answer.isOk := by
  induction lines generalizing run with
  | nil => rfl
  | cons line rest ih =>
    rcases exchanges_cons run line rest with ⟨_, answer, hgoes, hperform, _, hmade⟩ |
      ⟨hmade, _, _, hend⟩
    · rw [hmade, List.foldl_cons, ih, failures_step hgoes hperform, List.map_cons, Nat.add_assoc,
        ← List.countP_append, List.singleton_append]
    · rw [hmade, hend]
      rfl

/-- Every exchange of a script was had with some table. -/
theorem exists_perform_of_mem_exchanges {run : Run σ τ} {lines : List String} {made : Exchange}
    (h : made ∈ exchanges run lines) :
    ∃ (table next : Table σ) (events : List Event),
      perform table made.1 = .done events (made.2, next) := by
  induction lines generalizing run with
  | nil => cases h
  | cons line rest ih =>
    rcases exchanges_cons run line rest with ⟨_, _, _, hperform, _, hmade⟩ | ⟨hmade, _⟩
    · rw [hmade, List.mem_cons] at h
      rcases h with rfl | h
      · exact ⟨_, _, _, hperform⟩
      · exact ih h
    · rw [hmade] at h
      cases h

/-! ### What exchanges lead to -/

/-- The exchanges that lead from `start` to another table, and all that was reported meanwhile. -/
abbrev LeadsTo (start : Table σ) : List Exchange → List Event → Table σ → Prop :=
  Trace (fun table exchange events next =>
    perform table exchange.1 = .done events (exchange.2, next)) start

/-- **The exchanges of a script lead to the table it leaves**, whether or not it is stopped. -/
theorem leadsTo_exchanges (run : Run σ τ) (lines : List String) :
    ∃ events, LeadsTo run.table (exchanges run lines) events
      (lines.foldl Run.step run).table := by
  induction lines generalizing run with
  | nil => exact ⟨[], .nil⟩
  | cons line rest ih =>
    rcases exchanges_cons run line rest with ⟨_, _, _, hperform, _, hmade⟩ | ⟨hmade, _, _, hend⟩
    · obtain ⟨events, hrest⟩ := ih (run.step line)
      rw [hmade]
      exact ⟨_, .cons hperform hrest⟩
    · rw [hmade, hend]
      exact ⟨[], .nil⟩

/-! ### Transcripts -/

/-- What is written of some answers. -/
def transcriptText (answers : List Answer) : String :=
  String.join (answers.map fun answer => answerText answer ++ "\n")

/-- Into a transcript, every answer is written in full. -/
theorem writeAnswers_transcript (transcript : Transcript) (answers : List Answer) :
    writeAnswers transcript answers =
      { text := transcript.text ++ transcriptText answers } := by
  induction answers generalizing transcript with
  | nil => simp [transcriptText]
  | cons answer answers ih =>
    rw [writeAnswers_cons, ih, write_transcript, transcriptText, transcriptText, List.map_cons,
      String.join_cons, String.append_assoc]

/-- A script only adds its answers to a transcript. -/
theorem text_foldl_step (run : Run σ Transcript) (lines : List String) :
    (lines.foldl Run.step run).sink.text =
      run.sink.text ++ transcriptText ((exchanges run lines).map Prod.snd) := by
  rw [sink_foldl_step, writeAnswers_transcript]

/-- A transcript of a whole script is made of its answers. -/
theorem text_run (table : Table σ) (source : String) :
    (run table ({} : Transcript) source).sink.text =
      transcriptText ((exchanges { table, sink := ({} : Transcript) } (split source)).map
        Prod.snd) := by
  rw [run, runCommands, text_foldl_step]
  exact String.empty_append

/-- A line that is carried out leaves a script going that writes a transcript. -/
theorem step_transcript {run : Run σ Transcript} {next : Table σ} {line : String}
    {events : List Event} {answer : Answer} (hgoes : run.stop = none)
    (hperform : perform run.table line = .done events (answer, next)) :
    run.step line =
      { table := next
        sink := writeAnswers run.sink [answer]
        events := run.events ++ events
        failures := run.failures + [answer].countP fun answer => !answer.isOk } := by
  simp only [Run.step, hgoes, hperform, write_transcript, if_true]
  cases answer <;> rfl

/-- Exchanges that lead to a table are run to their end where a transcript is written. -/
theorem foldl_step_of_leadsTo {run : Run σ Transcript} {made : List Exchange}
    {events : List Event} {last : Table σ} (hgoes : run.stop = none)
    (hrun : LeadsTo run.table made events last) :
    (made.map Prod.fst).foldl Run.step run =
      { table := last
        sink := writeAnswers run.sink (made.map Prod.snd)
        events := run.events ++ events
        failures := run.failures + (made.map Prod.snd).countP fun answer => !answer.isOk } := by
  induction hrun with
  | nil =>
    obtain ⟨table, sink, reported, failures, stop⟩ := run
    cases hgoes
    simp
  | snoc _ hperform ih =>
    -- Up to the last line the script went on, so this one is carried out too.
    rw [List.map_append, List.foldl_append, ih, List.map_append, writeAnswers_append,
      List.countP_append]
    rw [List.map_cons, List.map_nil, List.foldl_cons, List.foldl_nil, step_transcript rfl hperform]
    have hevents (earlier : Array Event) (first second : List Event) :
        earlier ++ first ++ second = earlier ++ (first ++ second) := Array.ext' (by simp)
    rw [hevents, Nat.add_assoc]
    rfl

/-- **Exchanges that lead to a table can be had again**: their lines have the same answers
    again. -/
theorem exchanges_of_leadsTo {run : Run σ Transcript} {made : List Exchange}
    {events : List Event} {last : Table σ} (hgoes : run.stop = none)
    (hrun : LeadsTo run.table made events last) :
    exchanges run (made.map Prod.fst) = made := by
  induction hrun with
  | nil => rfl
  | snoc hbefore hperform ih =>
    rw [List.map_append, exchanges_append, ih, foldl_step_of_leadsTo hgoes hbefore]
    simp only [List.map_cons, List.map_nil, exchanges, hperform]

end Frontend.Script
