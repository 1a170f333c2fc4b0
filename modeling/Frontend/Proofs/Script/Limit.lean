import Mathlib.Order.Nat
import Frontend.Proofs.Script.Exchanges

namespace Frontend

/-!
# Scripts that write to a limited sink

A sink that takes a given number of bytes gets just the first of what an unlimited one would get,
and a script stops in the command whose answer is cut.

* `Run.limited` — a run as a limited sink has it, as long as its answers fit;
* `foldl_step_limited` — as long as they fit, the limit makes no difference;
* `exists_foldl_step_limited` — the first command whose answer does not fit is the last;
* `run_bounded` — both for whole scripts, and the same for a dump.
-/

variable {σ : Type}

/-! ### Runs with a limit -/

namespace Run

/-- A run as a sink has it that takes `limit` bytes. -/
def limited (limit : Nat) (run : Run σ Transcript) : Run σ Bounded where
  table := run.table
  sink := (Sink.write ({ room := limit } : Bounded) run.sink.text).2
  events := run.events
  failures := run.failures
  stop := run.stop

@[simp] theorem table_limited (limit : Nat) (run : Run σ Transcript) :
    (run.limited limit).table = run.table := rfl

@[simp] theorem failures_limited (limit : Nat) (run : Run σ Transcript) :
    (run.limited limit).failures = run.failures := rfl

@[simp] theorem stop_limited (limit : Nat) (run : Run σ Transcript) :
    (run.limited limit).stop = run.stop := rfl

/-- What a limited sink gets is the first of what an unlimited one gets. -/
theorem bytes_limited (limit : Nat) (run : Run σ Transcript) :
    (run.limited limit).sink.bytes = run.sink.text.toUTF8.extract 0 limit := by
  simp [limited, write_bounded]

/-- Nothing has been written to a limited sink at the start. -/
theorem limited_start (limit : Nat) (table : Table σ) :
    limited limit { table, sink := {} } = { table, sink := { room := limit } } := by
  have hwrite : Sink.write ({ room := limit } : Bounded) "" = (true, { room := limit }) := by
    simpa using @write_bounded_of_le { room := limit } "" (Nat.zero_le _)
  simp [limited, hwrite]

end Run

variable [Allocator σ]

/-! ### One command -/

namespace Run

/-- The next command has its effect, and what the sink takes of its answer is as if all had been
    written at once; an answer that does not fit stops the script. -/
theorem step_limited {limit : Nat} {run : Run σ Transcript}
    (hbefore : run.sink.text.utf8ByteSize ≤ limit) (line : String) :
    (run.limited limit).step line =
      if (run.step line).sink.text.utf8ByteSize ≤ limit then (run.step line).limited limit
      else { (run.step line).limited limit with stop := some .sinkFull } := by
  obtain ⟨table, ⟨text⟩, events, failures, stop⟩ := run
  cases stop with
  | some stop => exact (if_pos hbefore).symm
  | none =>
    cases hperform : perform table line with
    | aborted reported cause =>
      simp only [step, limited, hperform]
      exact (if_pos hbefore).symm
    | done reported result =>
      obtain ⟨answer, next⟩ := result
      have hwrite : Sink.write (Sink.write ({ room := limit } : Bounded) text).2
          (answerText answer ++ "\n") = Sink.write { room := limit }
            (text ++ (answerText answer ++ "\n")) := (write_append_of_le hbefore _).symm
      simp only [step, limited, hperform, hwrite, write_transcript]
      by_cases hfits : (text ++ (answerText answer ++ "\n")).utf8ByteSize ≤ limit
      · simp only [hfits, write_bounded, decide_true, if_true]
      · simp only [hfits, write_bounded, decide_false, if_false, Bool.false_eq_true]

end Run

/-! ### Whole scripts -/

namespace Script

/-- A transcript does not get shorter. -/
theorem utf8ByteSize_le_foldl_step (run : Run σ Transcript) (lines : List String) :
    run.sink.text.utf8ByteSize ≤ (lines.foldl Run.step run).sink.text.utf8ByteSize := by
  rw [text_foldl_step, String.utf8ByteSize_append]
  exact Nat.le_add_right _ _

/-- As long as all answers fit, the limit makes no difference. -/
theorem foldl_step_limited {limit : Nat} {run : Run σ Transcript} {lines : List String}
    (hfits : (lines.foldl Run.step run).sink.text.utf8ByteSize ≤ limit) :
    lines.foldl Run.step (run.limited limit) = (lines.foldl Run.step run).limited limit := by
  induction lines generalizing run with
  | nil => rfl
  | cons line rest ih =>
    have hstep := (utf8ByteSize_le_foldl_step (run.step line) rest).trans hfits
    have hrun := (utf8ByteSize_le_foldl_step run [line]).trans hstep
    rw [List.foldl_cons, Run.step_limited hrun, if_pos hstep]
    exact ih hfits

/-- If not all answers fit, the first command that goes beyond the limit is the last. -/
theorem exists_foldl_step_limited {limit : Nat} {run : Run σ Transcript} {lines : List String}
    (hbefore : run.sink.text.utf8ByteSize ≤ limit)
    (hlt : limit < (lines.foldl Run.step run).sink.text.utf8ByteSize) :
    ∃ count ≤ lines.length,
      limit < ((lines.take count).foldl Run.step run).sink.text.utf8ByteSize ∧
        (∀ fewer < count,
          ((lines.take fewer).foldl Run.step run).sink.text.utf8ByteSize ≤ limit) ∧
        lines.foldl Run.step (run.limited limit) =
          { ((lines.take count).foldl Run.step run).limited limit with
            stop := some .sinkFull } := by
  have hexists : ∃ count,
      limit < ((lines.take count).foldl Run.step run).sink.text.utf8ByteSize :=
    ⟨lines.length, by rwa [List.take_length]⟩
  obtain ⟨count, hcount, hleast⟩ : ∃ count,
      limit < ((lines.take count).foldl Run.step run).sink.text.utf8ByteSize ∧
        ∀ fewer < count,
          ((lines.take fewer).foldl Run.step run).sink.text.utf8ByteSize ≤ limit :=
    ⟨Nat.find hexists, Nat.find_spec hexists,
      fun _ hless => Nat.le_of_not_lt (Nat.find_min hexists hless)⟩
  -- There is such a command, since nothing has gone beyond the limit before the first.
  cases count with
  | zero => exact absurd hcount (Nat.not_lt.mpr hbefore)
  | succ before =>
    have hfits := hleast before (Nat.lt_succ_self before)
    have hlength : before < lines.length := by
      by_contra hlong
      rw [List.take_of_length_le (by omega)] at hfits
      omega
    -- Up to here everything has fitted, and this command's answer is cut.
    have hcut : (lines.take (before + 1)).foldl Run.step (run.limited limit) =
        { ((lines.take (before + 1)).foldl Run.step run).limited limit with
          stop := some .sinkFull } := by
      simp only [List.take_succ_eq_append_getElem hlength, List.foldl_append] at hcount ⊢
      rw [foldl_step_limited hfits]
      exact (Run.step_limited hfits _).trans (if_neg (Nat.not_le.mpr hcount))
    refine ⟨before + 1, hlength, hcount, hleast, ?_⟩
    calc lines.foldl Run.step (run.limited limit)
        = (lines.drop (before + 1)).foldl Run.step
            ((lines.take (before + 1)).foldl Run.step (run.limited limit)) := by
          rw [← List.foldl_append, List.take_append_drop]
      _ = _ := by rw [hcut, Run.foldl_step_of_stop rfl]

/-- Once the limit has been passed, later answers do not change the bytes within it. -/
theorem extract_foldl_step {limit : Nat} {run : Run σ Transcript}
    (hpassed : limit < run.sink.text.utf8ByteSize) (lines : List String) :
    (lines.foldl Run.step run).sink.text.toUTF8.extract 0 limit =
      run.sink.text.toUTF8.extract 0 limit := by
  have hnone : limit - run.sink.text.utf8ByteSize = 0 := by omega
  rw [text_foldl_step, extract_toUTF8_append, hnone]
  simp

/-- **What a limit on the sink does to a script.**  If all it writes fits, nothing.  Otherwise the
    script is stopped, the sink holds just the first bytes, and the table is the one after the
    first so many commands that write more than fits: the command whose answer was cut has had its
    effect, and none after it.  It does not matter in how many parts an answer is written, and a
    dump is taken whole if it fits and cut otherwise in the same way. -/
theorem run_bounded (table : Table σ) (source : String) (limit : Nat) :
    let sink : Bounded := { room := limit }
    let whole := run table ({} : Transcript) source
    let cut := run table sink source
    let upTo (count : Nat) := runCommands table ({} : Transcript) ((split source).take count)
    (whole.sink.text.utf8ByteSize ≤ limit →
      cut.stop = whole.stop ∧ cut.failures = whole.failures ∧ cut.table = whole.table ∧
        cut.sink.bytes = whole.sink.text.toUTF8) ∧
      (limit < whole.sink.text.utf8ByteSize →
        cut.stop = some .sinkFull ∧ cut.sink.bytes = whole.sink.text.toUTF8.extract 0 limit ∧
          ∃ count ≤ (split source).length,
            limit < (upTo count).sink.text.utf8ByteSize ∧
              (∀ fewer < count, (upTo fewer).sink.text.utf8ByteSize ≤ limit) ∧
              cut.table = (upTo count).table) ∧
      (∀ (bounded : Bounded) (texts : List String),
        Sink.writeAll bounded texts = Sink.write bounded (String.join texts)) ∧
      (table.dumpTo sink).1 = decide (table.dump.utf8ByteSize ≤ limit) ∧
      (table.dumpTo sink).2.bytes = table.dump.toUTF8.extract 0 limit := by
  intro sink whole cut upTo
  let start : Run σ Transcript := { table, sink := {} }
  have hwhole : whole = (split source).foldl Run.step start := rfl
  have hupTo (count : Nat) : upTo count = ((split source).take count).foldl Run.step start := rfl
  have hcut : cut = (split source).foldl Run.step (start.limited limit) := by
    rw [Run.limited_start]
    rfl
  simp only [hwhole, hcut, hupTo]
  refine ⟨fun hfits => ?_, fun hlt => ?_, writeAll_bounded, ?_, ?_⟩
  · rw [foldl_step_limited hfits, Run.bytes_limited]
    exact ⟨Run.stop_limited .., Run.failures_limited .., Run.table_limited ..,
      extract_toUTF8_of_le hfits⟩
  · obtain ⟨count, hlength, hcount, hleast, hend⟩ :=
      exists_foldl_step_limited (Nat.zero_le _) hlt
    have hbytes := extract_foldl_step hcount ((split source).drop count)
    rw [← List.foldl_append, List.take_append_drop] at hbytes
    rw [hend, Run.bytes_limited, hbytes]
    exact ⟨rfl, rfl, count, hlength, hcount, hleast, rfl⟩
  · rw [Table.dumpTo, writeAll_bounded]
    rfl
  · rw [Table.dumpTo, writeAll_bounded]
    exact ByteArray.empty_append

/-- The second of three answers is cut in the middle of a name, after the first of the two bytes of
    its letter.  The name has been declared, and no scope is opened after that. -/
example :
    let table := (Table.blank 10 ({} : Heap)).opened
    let cut := run table ({ room := 32 } : Bounded) "\x7b; int é; \x7b"
    cut.stop = some .sinkFull ∧ cut.sink.bytes.data.toList.getLast? = some 0xC3 ∧
      cut.table.scopes.map Scope.count = [1, 0] := by decide +kernel

end Script

end Frontend
