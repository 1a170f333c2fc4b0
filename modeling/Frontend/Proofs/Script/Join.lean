import Mathlib.Data.List.DropRight
import Frontend.Proofs.Script.Scan
import Frontend.Proofs.Table.Effect
import Frontend.Script.Run

namespace Frontend

/-!
# Scripts one after the other

Two scripts joined into one do what they do one after the other.

* `lastLine` — what stands after the last newline of a text;
* `split_append_newline`, `split_append_semicolon` — the commands of two scripts are kept apart by
  a newline, and by a semicolon that no comment swallows;
* `Run.followedBy` — two runs told as one;
* `runCommands_append` — later commands take up where the earlier ones have led;
* `run_joined` — a joined script is its two parts, one after the other.
-/

/-! ### Joined texts -/

namespace Script

/-- What stands after the last newline of a text. -/
def lastLine (text : List Char) : List Char := text.rtakeWhile (· != '\n')

/-- A text is its last line, or has it after a newline. -/
theorem eq_lastLine_or (text : List Char) :
    text = lastLine text ∨ ∃ before, text = before ++ '\n' :: lastLine text := by
  have htext : text.rdropWhile (· != '\n') ++ lastLine text = text :=
    List.rdropWhile_append_rtakeWhile
  rcases List.eq_nil_or_concat (text.rdropWhile (· != '\n')) with hnone | ⟨before, c, hbefore⟩
  · rw [hnone, List.nil_append] at htext
    exact .inl htext.symm
  · have hstop := List.rdropWhile_last_not (· != '\n') text (by simp [hbefore])
    have hnewline : c = '\n' := by simpa [hbefore] using hstop
    rw [hbefore, hnewline, List.concat_eq_append, List.append_assoc, List.singleton_append] at htext
    exact .inr ⟨before, htext.symm⟩

/-- A newline keeps the commands of two scripts apart. -/
theorem split_append_newline (first second : String) :
    split (first ++ "\n" ++ second) = split first ++ split second := by
  have htext : (first ++ "\n" ++ second).toList = first.toList ++ '\n' :: second.toList := by simp
  simp only [split, commands_eq_scan, htext, scan_append_newline, List.map_append]

/-- So does a semicolon, unless the last line before it has a comment. -/
theorem split_append_semicolon {first : String} (hhash : '#' ∉ lastLine first.toList)
    (hslashes : ¬ ['/', '/'] <:+: lastLine first.toList) (second : String) :
    split (first ++ ";" ++ second) = split first ++ split second := by
  have htext : (first ++ ";" ++ second).toList = first.toList ++ ';' :: second.toList := by simp
  have hscan : scan false [] (first.toList ++ ';' :: second.toList) =
      scan false [] first.toList ++ scan false [] second.toList := by
    rcases eq_lastLine_or first.toList with hline | ⟨before, hbefore⟩
    · rw [hline]
      exact scan_append_semicolon hhash hslashes [] _
    · rw [hbefore, List.append_assoc, List.cons_append, scan_append_newline, scan_append_newline,
        scan_append_semicolon hhash hslashes, List.append_assoc]
  simp only [split, commands_eq_scan, htext, hscan, List.map_append]

end Script

/-! ### Joined runs -/

variable {σ : Type}

namespace Run

/-- Two runs told as one, the second of which has begun where the first has ended. -/
def followedBy (first second : Run σ Transcript) : Run σ Transcript where
  table := second.table
  sink := { text := first.sink.text ++ second.sink.text }
  events := first.events ++ second.events
  failures := first.failures + second.failures
  stop := second.stop

/-- A run that goes on is followed by one that has not done anything yet. -/
theorem followedBy_start {run : Run σ Transcript} (hgoes : run.stop = none) :
    run.followedBy { table := run.table, sink := {} } = run := by
  obtain ⟨table, sink, events, failures, stop⟩ := run
  cases hgoes
  simp [followedBy]

private theorem append_events (first second : Array Event) (reported : List Event) :
    first ++ second ++ reported = first ++ (second ++ reported) := Array.ext' (by simp)

variable [Allocator σ]

/-- The next command of the second run is the next command of both. -/
theorem step_followedBy (first second : Run σ Transcript) (line : String) :
    (first.followedBy second).step line = first.followedBy (second.step line) := by
  obtain ⟨table, sink, events, failures, stop⟩ := second
  cases stop with
  | some stop => rfl
  | none =>
    simp only [step, followedBy]
    cases perform table line with
    | aborted reported cause => simp [append_events]
    | done reported result =>
      obtain ⟨answer, next⟩ := result
      cases answer <;> simp [String.append_assoc, append_events, Nat.add_assoc]

end Run

namespace Script

variable [Allocator σ]

/-- Later commands take up where the earlier ones have led. -/
theorem runCommands_append {table : Table σ} {first : List String}
    (hgoes : (runCommands table ({} : Transcript) first).stop = none) (second : List String) :
    runCommands table ({} : Transcript) (first ++ second) =
      (runCommands table {} first).followedBy
        (runCommands (runCommands table ({} : Transcript) first).table {} second) := by
  have hmiddle := Run.followedBy_start hgoes
  -- The first run can be put before the second at its start, or at its end.
  calc runCommands table ({} : Transcript) (first ++ second)
      = second.foldl Run.step (runCommands table {} first) := List.foldl_append
    _ = second.foldl Run.step ((runCommands table {} first).followedBy
          { table := (runCommands table ({} : Transcript) first).table, sink := {} }) := by
        rw [hmiddle]
    _ = _ := List.foldl_hom (Run.followedBy _) fun run line => Run.step_followedBy _ run line

/-- What has been stopped stays stopped. -/
theorem stop_of_runCommands_append {table : Table σ} {first second : List String}
    (hgoes : (runCommands table ({} : Transcript) (first ++ second)).stop = none) :
    (runCommands table ({} : Transcript) first).stop = none := by
  cases hstop : (runCommands table ({} : Transcript) first).stop with
  | none => rfl
  | some stop =>
    have hwhole : runCommands table ({} : Transcript) (first ++ second) =
        second.foldl Run.step (runCommands table {} first) := List.foldl_append
    rw [hwhole, Run.foldl_step_of_stop hstop] at hgoes
    exact hstop.symm.trans hgoes

/-- **Two scripts joined by a newline do what they do one after the other**, and so do two scripts
    joined by a semicolon that does not stand in a comment.  Nothing is stopped in the joined
    script exactly if nothing is in its two parts, the second of them run on the table that the
    first has left, and then the answers follow each other, the failures add up, and the table is
    the same. -/
theorem run_joined (table : Table σ) {first separator : String} (second : String)
    (hseparator : separator = "\n" ∨
      separator = ";" ∧ '#' ∉ lastLine first.toList ∧ ¬ ['/', '/'] <:+: lastLine first.toList) :
    let before := run table ({} : Transcript) first
    let after := run before.table ({} : Transcript) second
    let whole := run table ({} : Transcript) (first ++ separator ++ second)
    (whole.stop = none ↔ before.stop = none ∧ after.stop = none) ∧
      (whole.stop = none →
        whole.sink.text = before.sink.text ++ after.sink.text ∧
          whole.failures = before.failures + after.failures ∧
          whole.events = before.events ++ after.events ∧ whole.table = after.table) := by
  intro before after whole
  have hsplit : split (first ++ separator ++ second) = split first ++ split second := by
    rcases hseparator with rfl | ⟨rfl, hhash, hslashes⟩
    · exact split_append_newline first second
    · exact split_append_semicolon hhash hslashes second
  have hwhole : whole = runCommands table {} (split first ++ split second) :=
    congrArg (runCommands table ({} : Transcript)) hsplit
  have hjoined (hgoes : before.stop = none) : whole = before.followedBy after :=
    hwhole.trans (runCommands_append hgoes _)
  have hbefore (hgoes : whole.stop = none) : before.stop = none :=
    stop_of_runCommands_append (hwhole ▸ hgoes)
  clear_value whole after before
  refine ⟨⟨fun hgoes => ?_, fun ⟨hfirst, hsecond⟩ => ?_⟩, fun hgoes => ?_⟩
  · have hfirst := hbefore hgoes
    rw [hjoined hfirst, Run.followedBy] at hgoes
    exact ⟨hfirst, hgoes⟩
  · rw [hjoined hfirst, Run.followedBy]
    exact hsecond
  · rw [hjoined (hbefore hgoes), Run.followedBy]
    exact ⟨rfl, rfl, rfl, rfl⟩

/-- A semicolon joins two scripts of which the first ends and the second begins with a slash.  The
    comment of the first ends with its line. -/
theorem run_joined_between_slashes :
    let table := (Table.blank 10 ({} : Heap)).opened
    let first := "\x7b // in; \x7d\nint x; /"
    let second := "/ gone\nlookup x"
    let whole := run table ({} : Transcript) (first ++ ";" ++ second)
    ('#' ∉ lastLine first.toList ∧ ¬ ['/', '/'] <:+: lastLine first.toList) ∧
      whole.stop = none ∧ whole.failures = 2 ∧
      whole.sink.text = "Opened scope level 1\nInserted 'x' (INT) at level 1\n" ++
        "error: Unknown command: /\nerror: Unknown command: / gone\nx: INT (level 1)\n" := by
  intro table first second whole
  have hvisible : '#' ∉ lastLine first.toList ∧ ¬ ['/', '/'] <:+: lastLine first.toList := by
    decide +kernel
  have hjoined := run_joined table second (.inr ⟨rfl, hvisible⟩)
  dsimp only at hjoined
  obtain ⟨hstop, hjoined⟩ := hjoined
  have hgoes : (run table ({} : Transcript) (first ++ ";" ++ second)).stop = none := by
    decide +kernel
  obtain ⟨htext, hfailures, -, -⟩ := hjoined hgoes
  refine ⟨hvisible, hgoes, ?_, ?_⟩
  · rw [hfailures]
    decide +kernel
  · rw [htext]
    decide +kernel

end Script

end Frontend
