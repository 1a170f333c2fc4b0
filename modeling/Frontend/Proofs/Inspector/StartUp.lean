import Frontend.Inspector.Program
import Frontend.Proofs.Script.Exchanges
import Frontend.Proofs.Table.Ceiling

namespace Frontend

/-!
# Scripts on the inspector's table

The table that is made for a command line is one under a ceiling, and so a script on it is never
ended by what its commands ask for.

* `lineOperations` — the operations that some lines ask for;
* `Run.UnderCeiling` — a script that is run under a ceiling, `Run.UnderCeiling.step` its next
  command;
* `Script.stop_eq_none_iff` — a script goes on to its end exactly if there is a level for every
  scope it opens;
* `Script.exists_answers` — and then it is answered line by line;
* `Inspector.startUp_eq_ready` — the table made for a command line;
* `Inspector.script_after_startUp` — every script on it is answered line by line.
-/

section

variable {σ τ : Type} [Allocator σ] [Sink τ]

/-! ### The operations of some lines -/

/-- The operations that some lines ask for. -/
def lineOperations (lines : List String) : List Operation := lines.filterMap lineOperation?

theorem lineOperations_snoc (lines : List String) (line : String) :
    lineOperations (lines ++ [line]) = lineOperations lines ++ (lineOperation? line).toList := by
  rw [lineOperations, List.filterMap_append, lineOperations]
  cases hline : lineOperation? line <;> simp [hline]

/-- After every line, the next level is the number of the next opening if it was before. -/
theorem nextLevel_of_perform {table next : Table σ} {line : String} {events : List Event}
    {answer : Answer} (hperform : perform table line = .done events (answer, next))
    {lines : List String} (h : table.nextLevel = openings (lineOperations lines) + 1) :
    next.nextLevel = openings (lineOperations (lines ++ [line])) + 1 := by
  rw [lineOperations_snoc]
  cases hline : lineOperation? line with
  | none =>
    rw [(eq_of_perform hperform hline).2, Option.toList_none, List.append_nil]
    exact h
  | some operation =>
    obtain ⟨response, heffect, -⟩ := effect_of_perform hperform hline
    exact heffect.nextLevel_eq h

/-! ### Levels enough -/

namespace Script

/-- Exchanges on a fresh table lead to the level that their openings come to. -/
theorem nextLevel_of_leadsTo {start last : Table σ} {made : List Exchange} {events : List Event}
    (hstart : start.nextLevel = 1) (hrun : LeadsTo start made events last) :
    last.nextLevel = openings (lineOperations (made.map Prod.fst)) + 1 ∧
      last.nextLevel ≤ levelLimit := by
  induction hrun with
  | nil =>
    rw [hstart]
    exact ⟨rfl, by decide⟩
  | snoc _ hperform ih =>
    rw [List.map_append, List.map_singleton]
    have hle := invariant_of_perform (fun heffect h => heffect.nextLevel_le h) hperform ih.2
    exact ⟨nextLevel_of_perform hperform ih.1, hle⟩

/-- **A script that goes on to its end has had a level for every scope it opened.** -/
theorem openings_lt_of_stop_eq_none {start : Table σ} {sink : τ} {lines earlier : List String}
    (hstart : start.nextLevel = 1) (hgoes : (runCommands start sink lines).stop = none)
    (hearlier : earlier <+: lines) : openings (lineOperations earlier) < levelLimit := by
  obtain ⟨later, rfl⟩ := hearlier
  -- What was stopped before would be stopped now.
  have hbefore : (earlier.foldl Run.step { table := start, sink }).stop = none := by
    cases hstop : (earlier.foldl Run.step { table := start, sink }).stop with
    | none => rfl
    | some stop =>
      rw [runCommands, List.foldl_append, Run.foldl_step_of_stop hstop, hstop] at hgoes
      cases hgoes
  obtain ⟨events, hrun⟩ := leadsTo_exchanges { table := start, sink } earlier
  have hlevel := nextLevel_of_leadsTo hstart hrun
  rw [map_fst_exchanges hbefore] at hlevel
  omega

/-- **A script that goes on to its end is answered line by line** in its transcript, and its
    failures are counted. -/
theorem exists_answers {table : Table σ} {text : String}
    (hgoes : (run table ({} : Transcript) text).stop = none) :
    ∃ answers : List Answer, answers.length = (split text).length ∧
      exchanges { table, sink := ({} : Transcript) } (split text) = (split text).zip answers ∧
      (run table ({} : Transcript) text).sink.text = transcriptText answers ∧
      (run table ({} : Transcript) text).failures = answers.countP fun answer => !answer.isOk := by
  have hlines : (exchanges { table, sink := ({} : Transcript) } (split text)).map Prod.fst =
      split text := map_fst_exchanges hgoes
  refine ⟨(exchanges { table, sink := ({} : Transcript) } (split text)).map Prod.snd, ?_,
    List.zip_of_prod hlines rfl, text_run table text, ?_⟩
  · have hlength := congrArg List.length hlines
    rwa [List.length_map] at hlength ⊢
  · rw [run, runCommands, failures_foldl_step]
    exact Nat.zero_add _

end Script

end

/-! ### Under a ceiling -/

variable {ceiling : Nat}

/-- **With a level for every scope they open, all lines are carried out**, each with its answer. -/
theorem Script.exists_leadsTo {start : Table Capped} (hceiling : start.UnderCeiling ceiling)
    (hstart : start.nextLevel = 1) {lines : List String}
    (hlevels : ∀ earlier, earlier <+: lines → openings (lineOperations earlier) < levelLimit) :
    ∃ answers events last, answers.length = lines.length ∧
      LeadsTo start (lines.zip answers) events last := by
  induction lines using List.reverseRecOn with
  | nil => exact ⟨[], [], start, rfl, .nil⟩
  | append_singleton lines line ih =>
    obtain ⟨answers, events, middle, hlength, hbefore⟩ :=
      ih fun earlier hearlier => hlevels earlier (hearlier.trans (List.prefix_append _ _))
    have hmiddle : middle.UnderCeiling ceiling :=
      hbefore.invariant (·.UnderCeiling ceiling) (invariant_of_perform Table.Effect.underCeiling)
        hceiling
    cases hperform : perform middle line with
    | done reported result =>
      obtain ⟨answer, last⟩ := result
      refine ⟨answers ++ [answer], events ++ reported, last, by simp [hlength], ?_⟩
      rw [List.zip_append hlength.symm]
      exact hbefore.snoc hperform
    | aborted reported cause =>
      -- The line opens a scope, and the count of openings leaves a level for that.
      obtain ⟨operation, hline, habort⟩ := apply_of_perform_eq_aborted hperform
      obtain ⟨rfl, hexhausted, -⟩ := hmiddle.of_apply_eq_aborted habort
      have hlevel := (nextLevel_of_leadsTo hstart hbefore).1
      rw [List.map_fst_zip (Nat.le_of_eq hlength.symm)] at hlevel
      have hcount := hlevels (lines ++ [line]) List.prefix_rfl
      rw [lineOperations_snoc, hline, Option.toList_some, openings_snoc, if_neg (by decide),
        List.count_singleton_self] at hcount
      omega

/-- **A script on a fresh table goes on to its end exactly if there are levels enough.** -/
theorem Script.stop_eq_none_iff {start : Table Capped} (hceiling : start.UnderCeiling ceiling)
    (hstart : start.nextLevel = 1) {text : String} :
    (Script.run start ({} : Transcript) text).stop = none ↔
      ∀ earlier, earlier <+: Script.split text →
        openings (lineOperations earlier) < levelLimit := by
  constructor
  · intro hgoes earlier hearlier
    exact openings_lt_of_stop_eq_none hstart hgoes hearlier
  · intro hlevels
    obtain ⟨answers, events, last, hlength, hrun⟩ := exists_leadsTo hceiling hstart hlevels
    have hgoes : ({ table := start, sink := {} } : Run Capped Transcript).stop = none := rfl
    have hend := foldl_step_of_leadsTo hgoes hrun
    rw [List.map_fst_zip (Nat.le_of_eq hlength.symm)] at hend
    rw [run, runCommands, hend]

/-- A script that is run under a ceiling: its table is one, and if it has ended the program, then
    because no level was left. -/
structure Run.UnderCeiling {τ : Type} (run : Run Capped τ) (ceiling : Nat) : Prop where
  table : run.table.UnderCeiling ceiling
  stop : ∀ cause, run.stop = some (.aborted cause) → cause = .levelsExhausted

namespace Run.UnderCeiling

variable {τ : Type} [Sink τ] {run : Run Capped τ}

/-- **The next command of a script** is carried out under the ceiling, too. -/
theorem step (h : run.UnderCeiling ceiling) (line : String) :
    (run.step line).UnderCeiling ceiling := by
  cases hstop : run.stop with
  | some stop =>
    have hstep : run.step line = run := by rw [Run.step, hstop]
    rw [hstep]
    exact h
  | none =>
    cases hperform : perform run.table line with
    | aborted events cause =>
      obtain ⟨operation, -, habort⟩ := apply_of_perform_eq_aborted hperform
      obtain ⟨-, -, rfl⟩ := h.table.of_apply_eq_aborted habort
      have hstep : run.step line =
          { run with
            events := run.events ++ events
            stop := some (.aborted .levelsExhausted) } := by
        simp only [Run.step, hstop, hperform]
      rw [hstep]
      exact ⟨h.table, by simp [eq_comm]⟩
    | done events result =>
      obtain ⟨answer, next⟩ := result
      have htable : (run.step line).table = next := by simp only [Run.step, hstop, hperform]
      have hgoes : (run.step line).stop =
          if (Sink.write run.sink (answerText answer ++ "\n")).1 then none else some .sinkFull := by
        simp only [Run.step, hstop, hperform]
      constructor
      · rw [htable]
        exact invariant_of_perform Table.Effect.underCeiling hperform h.table
      · intro cause hcause
        rw [hgoes] at hcause
        split at hcause <;> cases hcause

/-- So are all commands of a script. -/
theorem foldl_step (h : run.UnderCeiling ceiling) (lines : List String) :
    (lines.foldl Run.step run).UnderCeiling ceiling := by
  induction lines generalizing run with
  | nil => exact h
  | cons line rest ih => exact ih (h.step line)

end Run.UnderCeiling

/-! ### From the command line on -/

namespace Inspector

/-- A table as a command line describes it is under the ceiling described, and a scope can be opened
    in it, where the first slots are few enough to be had. -/
theorem underCeiling_of_parse {arguments : List String} {options : Options}
    (hparse : Options.parse arguments = .ok options) (hslots : options.capacity < Scope.slotLimit) :
    (Table.blank options.capacity (Capped.mk options.maxCapacity)).UnderCeiling
        options.maxCapacity ∧
      (Table.blank options.capacity (Capped.mk options.maxCapacity)).CanOpen := by
  have hblank := Table.underCeiling_blank (Options.capacity_le_of_parse hparse) hslots
  have hlevels : 0 < levelLimit := by decide
  exact ⟨hblank, hblank.canOpen hlevels⟩

/-- **The table made for a command line** is that one with its root open. -/
theorem startUp_eq_ready {arguments : List String} {options : Options}
    (hparse : Options.parse arguments = .ok options) (hslots : options.capacity < Scope.slotLimit) :
    startUp arguments =
      .ready options [.opened 0, .started]
        (Table.blank options.capacity (Capped.mk options.maxCapacity)).opened
        (Task.ofWords options.words) := by
  obtain ⟨-, hcan⟩ := underCeiling_of_parse hparse hslots
  have hcreate := Table.create_eq_done_iff.mpr ⟨hcan, rfl, rfl⟩
  rw [startUp, hparse]
  simp only [hcreate]

/-- How the program ends after a script that went on to its end. -/
theorem exit_finishScript {table : Table Capped} {text : String}
    (hgoes : (Script.run table ({} : Transcript) text).stop = none) (origin : Source) :
    (finishScript table origin (.ok text)).2 =
      .code (if (Script.run table ({} : Transcript) text).failures = 0 then 0 else 1) := by
  simp only [finishScript, hgoes]
  split <;> rfl

/-- **No script ends the program but by the levels it uses up.**  Let a command line be accepted,
    with few enough first slots that their size does not stand against them.  Then the table is
    made, and wherever a script on it is written to:

    * at every moment of it, that is after any lines, the program has not been ended for another
      reason than that no level was left, every scope has a slot for each of its entries, and none
      has more slots than the command line allows;
    * a script that writes a transcript goes on to its end exactly if at no time the scopes opened
      since the last reset are as many as there are levels;
    * and then every line has its answer, a text or a failure, and is followed by it in the
      transcript; the failures are counted and decide how the program ends. -/
theorem script_after_startUp {arguments : List String} {options : Options}
    (hparse : Options.parse arguments = .ok options) (hslots : options.capacity < Scope.slotLimit) :
    let table := (Table.blank options.capacity (Capped.mk options.maxCapacity)).opened
    startUp arguments =
        .ready options [.opened 0, .started] table (Task.ofWords options.words) ∧
      (∀ (τ : Type) [Sink τ] (sink : τ) (lines : List String),
        let run := Script.runCommands table sink lines
        (∀ cause, run.stop = some (.aborted cause) → cause = .levelsExhausted) ∧
          ∀ scope ∈ run.table.scopes,
            scope.count ≤ scope.capacity ∧ scope.capacity ≤ options.maxCapacity) ∧
      ∀ text : String,
        let run := Script.run table ({} : Transcript) text
        (run.stop = none ↔
          ∀ earlier, earlier <+: Script.split text →
            openings (lineOperations earlier) < levelLimit) ∧
          (run.stop = none →
            ∃ answers : List Answer, answers.length = (Script.split text).length ∧
              Script.exchanges { table, sink := ({} : Transcript) } (Script.split text) =
                (Script.split text).zip answers ∧
              run.sink.text = Script.transcriptText answers ∧
              run.failures = answers.countP (fun answer => !answer.isOk) ∧
              ∀ origin, (finishScript table origin (.ok text)).2 =
                .code (if run.failures = 0 then 0 else 1)) := by
  intro table
  obtain ⟨hblank, hcan⟩ := underCeiling_of_parse hparse hslots
  have htable : table.UnderCeiling options.maxCapacity := hblank.opened hcan
  have hfirst : table.nextLevel = 1 := rfl
  refine ⟨startUp_eq_ready hparse hslots, ?_, ?_⟩
  · intro τ _ sink lines run
    have hstart : ({ table, sink } : Run Capped τ).UnderCeiling options.maxCapacity :=
      ⟨htable, by simp⟩
    have hrun : run.UnderCeiling options.maxCapacity := hstart.foldl_step lines
    refine ⟨hrun.stop, fun scope hscope => ?_⟩
    exact ⟨(hrun.table.fits scope hscope).count_le, hrun.table.capacity_le scope hscope⟩
  · intro text run
    refine ⟨Script.stop_eq_none_iff htable hfirst, fun hgoes => ?_⟩
    obtain ⟨answers, hlength, hmade, htext, hfailures⟩ := Script.exists_answers hgoes
    exact ⟨answers, hlength, hmade, htext, hfailures, exit_finishScript hgoes⟩

/-- A script that wants more slots than it may have, closes every scope and goes on after that: its
    failures are told, and it does not end before its last line. -/
theorem script_after_startUp_beyond_ceiling :
    let text := "int a; int b; int c\n\x7d; \x7d; int d; \x7b; int a; nonsense; reset; \x7b"
    let arguments := ["--max-capacity", "2", "-e", text, "--capacity", "1"]
    let options : Options := { capacity := 1, maxCapacity := 2, words := ["-e", text] }
    let table := (Table.blank 1 (Capped.mk 2)).opened
    let run := Script.run table ({} : Transcript) text
    Options.parse arguments = .ok options ∧ options.capacity < Scope.slotLimit ∧
      startUp arguments =
        .ready options [.opened 0, .started] table (.script (.inline text)) ∧
      (∀ scope ∈ run.table.scopes, scope.count ≤ scope.capacity ∧ scope.capacity ≤ 2) ∧
      run.stop = none ∧
      (∀ earlier, earlier <+: Script.split text →
        openings (lineOperations earlier) < levelLimit) ∧
      run.failures = 4 ∧ (finishScript table (.inline text) (.ok text)).2 = .code 1 := by
  intro text arguments options table run
  have hparse : Options.parse arguments = .ok options := by decide +kernel
  have hslots : options.capacity < Scope.slotLimit := by decide
  have hgoes : (Script.run table ({} : Transcript) text).stop = none := by decide +kernel
  have hfailures : (Script.run table ({} : Transcript) text).failures = 4 := by decide +kernel
  have hscript := script_after_startUp hparse hslots
  dsimp only at hscript
  obtain ⟨hready, hmoments, hruns⟩ := hscript
  obtain ⟨hstop, hanswers⟩ := hruns text
  obtain ⟨-, -, -, -, -, hexit⟩ := hanswers hgoes
  have hcode := hexit (.inline text)
  refine ⟨hparse, hslots, hready, (hmoments Transcript {} _).2, hgoes, hstop.mp hgoes, hfailures,
    ?_⟩
  rw [hcode]
  exact congrArg (fun failures => Exit.code (if failures = 0 then 0 else 1)) hfailures

end Inspector

end Frontend
