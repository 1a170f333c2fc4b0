import Frontend.Proofs.Script.Exchanges
import Frontend.Proofs.Script.Grammar
import Frontend.Proofs.Table.Dump

namespace Frontend

open Text (cutLast_append IsWord isWord_of_mem_wordsOf wordsOf)

/-!
# Which answers look like failures

What is written for a command that failed begins with a mark.  So does what is written for an entry
of the name `error`, and nothing else.

* `Marked` — whether a text begins with the mark;
* `Entry.marked_description_iff` — the entries that are shown like a failure;
* `Command.marked_iff` — the commands that succeed and yet are answered like a failure;
* `asksForError` — the lines that can do so, and `marked_answerText_iff` that no other line can;
* `Script.countP_marked`, `Script.marked_answers` — so in a script the marks count the failures, and
  these lines.
-/

/-- Whether a text begins like what is written for a failure. -/
def Marked (text : String) : Prop := "error: ".toList <+: text.toList

instance (text : String) : Decidable (Marked text) :=
  inferInstanceAs (Decidable (_ <+: _))

/-- A text with another first letter than the mark is not marked. -/
theorem not_marked_of_head?_eq {text : String} {c : Char} (h : text.toList.head? = some c)
    (hc : c ≠ 'e') : ¬ Marked text := by
  rintro ⟨rest, hrest⟩
  rw [← hrest] at h
  exact hc (Option.some.inj h).symm

/-! ### Entries -/

/-- The mark has one colon, after five letters. -/
theorem eq_of_mark_eq {before after : List Char} (h : "error: ".toList = before ++ ':' :: after) :
    before = "error".toList := by
  have honce : "error: ".toList.count ':' = 1 := by decide
  rw [h, List.count_append, List.count_cons_self] at honce
  have hcut := cutLast_append (List.count_eq_zero.mp (by omega : after.count ':' = 0)) before
  rw [← h] at hcut
  exact (congrArg Prod.fst hcut).symm

theorem Entry.toList_description (entry : Entry) :
    entry.description.toList = entry.name.toList ++ ':' :: ' ' ::
      s!"{entry.type.name} (level {entry.level})".toList := by
  simp [description, toString]

/-- An entry is shown like a failure if it has the name `error`, or one like a failure itself. -/
theorem Entry.marked_description_iff {entry : Entry} :
    Marked entry.description ↔ entry.name = "error" ∨ Marked entry.name := by
  rw [Marked, toList_description]
  constructor
  · rintro ⟨rest, hrest⟩
    -- The mark ends in the name, or the colon after the name is its colon.
    rcases List.append_eq_append_iff.mp hrest with ⟨beyond, hname, -⟩ | ⟨_ | ⟨c, left⟩, hmark, hc⟩
    · exact .inr ⟨beyond, hname.symm⟩
    · exact .inr ⟨[], hmark.symm ▸ by simp⟩
    · rw [List.cons_append, List.cons.injEq] at hc
      rw [← hc.1] at hmark
      exact .inl (String.toList_inj.mp (eq_of_mark_eq hmark))
  · rintro (hname | hmarked)
    · rw [hname]
      exact List.prefix_append "error: ".toList _
    · exact hmarked.trans (List.prefix_append _ _)

/-! ### Commands -/

/-- The name that a command looks up. -/
def Command.asked? : Command → Option String
  | lookup name | lookupCurrent name => some name
  | _ => none

/-- No success of an operation looks like a failure. -/
theorem Response.not_marked {response : Response} {text : String}
    (h : response.answer = .ok text) : ¬ Marked text := by
  cases response <;> simp only [answer, Except.ok.injEq, reduceCtorEq] at h <;> subst h
  case opened => exact not_marked_of_head?_eq (c := 'O') (by simp [toString]) (by decide)
  case closed => exact not_marked_of_head?_eq (c := 'C') (by simp [toString]) (by decide)
  case inserted => exact not_marked_of_head?_eq (c := 'I') (by simp [toString]) (by decide)
  case restarted => decide

theorem Table.name_of_lookup {σ : Type} {table : Table σ} {name : String} {entry : Entry}
    (h : table.lookup name = some entry) : entry.name = name := by
  obtain ⟨scope, -, hscope⟩ := List.exists_of_findSome?_eq_some h
  exact (Scope.of_lookup_eq_some hscope).2

theorem Table.name_of_lookupCurrent {σ : Type} {table : Table σ} {name : String} {entry : Entry}
    (h : table.lookupCurrent name = some entry) : entry.name = name := by
  obtain ⟨scope, -, hscope⟩ := Option.bind_eq_some_iff.mp h
  exact (Scope.of_lookup_eq_some hscope).2

/-- Nor does the state of a table. -/
theorem Table.not_marked_stateText {σ : Type} (table : Table σ) : ¬ Marked table.stateText := by
  unfold stateText
  split
  · exact not_marked_of_head?_eq (c := 'A') (by simp [toString]) (by decide)
  · decide

-- All characters of the text are gone through, one inside the other.
set_option maxRecDepth 4000 in
theorem head?_trimmed_helpText : (Text.trimmed helpText).toList.head? = some 'C' := by
  obtain ⟨rest, hrest⟩ : ∃ rest, helpText = String.ofList ('\n' :: 'C' :: rest) := ⟨_, rfl⟩
  rw [Text.trimmed, hrest, String.toList_ofList, String.toList_ofList,
    Text.trim_cons_of_isBlank rfl, Text.head?_trim_cons rfl]

theorem Outcome.text_eq {σ : Type} {earlier later : List Event} {table next : Table σ}
    {text shown : String}
    (h : done earlier ((.ok text : Answer), table) = done later (.ok shown, next)) :
    text = shown := by
  cases h
  rfl

variable {σ : Type} [Allocator σ]

/-- **A success looks like a failure** only where a lookup finds a name that does. -/
theorem Command.marked_iff {command : Command} {table next : Table σ} {events : List Event}
    {text : String} (h : command.execute table = .done events (.ok text, next)) :
    Marked text ↔ ∃ name ∈ command.asked?, name = "error" ∨ Marked name := by
  cases command with
  | openScope | closeScope | insert _ _ | reset =>
    obtain ⟨response, -, hresponse⟩ := exists_response_of_execute rfl h
    simp [asked?, Response.not_marked hresponse]
  | lookup name =>
    rw [execute] at h
    cases hfound : table.resolve name with
    | error error => simp [hfound] at h
    | ok entry =>
      rw [hfound] at h
      have hname := Table.name_of_lookup (Table.resolve_eq_ok_iff.mp hfound)
      rw [← Outcome.text_eq h, Entry.marked_description_iff, hname]
      simp [asked?]
  | lookupCurrent name =>
    rw [execute] at h
    cases hfound : table.lookupCurrent name with
    | none => simp [hfound] at h
    | some entry =>
      rw [hfound] at h
      rw [← Outcome.text_eq h, Entry.marked_description_iff, Table.name_of_lookupCurrent hfound]
      simp [asked?]
  | dump =>
    rw [Table.execute_dump] at h
    have hdump := not_marked_of_head?_eq table.head?_dumpBody (by decide)
    simp [asked?, ← Outcome.text_eq h, hdump]
  | state =>
    simp [asked?, ← Outcome.text_eq h, table.not_marked_stateText]
  | help =>
    have hhelp := not_marked_of_head?_eq head?_trimmed_helpText (by decide)
    have htext : Text.trimmed helpText = text := Outcome.text_eq h
    rw [← htext]
    exact iff_of_false hhelp (by simp [asked?])

/-! ### Lines -/

/-- Whether a line looks up the name `error`, in all open scopes or in the innermost one. -/
def asksForError (line : String) : Bool :=
  ["lookup", "local"].any fun word => wordsOf line == [word, "error"]

theorem asksForError_iff {line : String} :
    asksForError line = true ↔ ∃ word ∈ ["lookup", "local"], wordsOf line = [word, "error"] := by
  simp only [asksForError, List.any_eq_true, beq_iff_eq]

/-- A word is not like a failure, since it has no blank. -/
theorem not_marked_of_isWord {word : String} (h : IsWord word) : ¬ Marked word := by
  intro hmarked
  have hblank := h.blank ' ' (hmarked.subset (by decide))
  cases hblank

/-- So of the names that a line can look up, only `error` is shown like a failure. -/
theorem asksForError_of_parse {line : String} {command : Command}
    (h : Command.parse line = .ok command) :
    asksForError line = true ↔ ∃ name ∈ command.asked?, name = "error" ∨ Marked name := by
  have hwords : ∀ word ∈ wordsOf line, ¬ Marked word :=
    fun word hword => not_marked_of_isWord (isWord_of_mem_wordsOf hword)
  rw [Command.parse_eq_ok_iff] at h
  rw [asksForError_iff]
  generalize wordsOf line = words at h hwords
  cases h with
  | lookup hword =>
    cases List.mem_singleton.mp hword
    simp [Command.asked?, hwords]
  | lookupCurrent hword =>
    cases List.mem_singleton.mp hword
    simp [Command.asked?, hwords]
  | shorthand htype =>
    have hlookup := htype.ne_of_mem_names .lookup (.head _)
    have hlocal := htype.ne_of_mem_names .lookupCurrent (.head _)
    simp [Command.asked?, hlookup, hlocal]
  | openScope | closeScope | insert | dump | state | reset | help => simp [Command.asked?]

/-- **An answer looks like a failure** if it is one, or if `error` was looked up. -/
theorem marked_answerText_iff {table next : Table σ} {line : String} {events : List Event}
    {answer : Answer} (h : perform table line = .done events (answer, next)) :
    Marked (answerText answer) ↔ answer.isOk = false ∨ asksForError line = true := by
  cases answer with
  | error error =>
    have hmarked : Marked (answerText (.error error)) :=
      ⟨error.message.toList, by simp [answerText, toString]⟩
    exact iff_of_true hmarked (.inl rfl)
  | ok text =>
    unfold perform at h
    cases hparse : Command.parse line with
    | error error => simp [hparse] at h
    | ok command =>
      rw [hparse] at h
      simp [answerText, Command.marked_iff h, asksForError_of_parse hparse, Except.toBool]

/-! ### Scripts -/

namespace Script

variable {τ : Type} [Sink τ]

/-- The marks in what a script writes count its failures, and the lookups that found `error`. -/
theorem countP_marked (run : Run σ τ) (lines : List String) :
    let made := exchanges run lines
    made.countP (fun made => Marked (answerText made.2)) =
      made.countP (fun made => !made.2.isOk) +
        made.countP fun made => made.2.isOk && asksForError made.1 := by
  intro made
  have hmarked : ∀ exchange ∈ made, Marked (answerText exchange.2) ↔
      exchange.2.isOk = false ∨ asksForError exchange.1 = true := by
    intro exchange hexchange
    obtain ⟨_, _, _, hperform⟩ := exists_perform_of_mem_exchanges hexchange
    exact marked_answerText_iff hperform
  -- What looks like a failure failed, or it did not.
  rw [List.countP_eq_countP_filter_add made _ fun exchange => !exchange.2.isOk,
    List.countP_filter, List.countP_filter]
  congr 1 <;> refine List.countP_congr fun exchange hexchange => ?_
  · simp +contextual [hmarked exchange hexchange]
  · cases hok : exchange.2.isOk <;> simp [hmarked exchange hexchange, hok]

/-- **What is written for a success looks like a failure only where `error` was looked up.**  A
    command that succeeds is answered like a failure if it is a lookup of `error`, or of a name that
    looks like a failure itself, as no word of a line does.  So as many answers of a script look
    like failures as it counts, and one more for every line that looked up `error` and found it.  If
    there is no such line, an answer looks like a failure exactly when it is one. -/
theorem marked_answers (table : Table σ) :
    (∀ (command : Command) (events : List Event) (text : String) (next : Table σ),
        command.execute table = .done events (.ok text, next) →
          (Marked text ↔ ∃ name ∈ command.asked?, name = "error" ∨ Marked name)) ∧
      ∀ (sink : τ) (source : String),
        let whole := run table sink source
        let made := exchanges { table, sink } (split source)
        let texts := made.map fun exchange => answerText exchange.2
        let named := made.filter fun exchange => exchange.2.isOk && asksForError exchange.1
        (whole.stop = none → made.map Prod.fst = split source) ∧
          whole.sink = writeAnswers sink (made.map Prod.snd) ∧
          texts.countP (fun text => Marked text) = whole.failures + named.length ∧
          (named = [] → texts.countP (fun text => Marked text) = whole.failures ∧
            ∀ exchange ∈ made, Marked (answerText exchange.2) ↔ exchange.2.isOk = false) := by
  refine ⟨fun _ _ _ _ h => Command.marked_iff h, fun sink source => ?_⟩
  intro whole made texts named
  have hfailures : whole.failures = made.countP fun made => !made.2.isOk := by
    simp only [whole, run, runCommands, failures_foldl_step, List.countP_map]
    exact Nat.zero_add _
  have hcount : texts.countP (fun text => Marked text) = whole.failures + named.length := by
    rw [List.countP_map, hfailures, ← List.countP_eq_length_filter]
    exact countP_marked _ _
  refine ⟨map_fst_exchanges, sink_foldl_step _ _, hcount, fun hnone => ⟨?_, ?_⟩⟩
  · rw [hcount, hnone, List.length_nil, Nat.add_zero]
  · intro exchange hexchange
    obtain ⟨_, _, _, hperform⟩ := exists_perform_of_mem_exchanges hexchange
    rw [marked_answerText_iff hperform, or_iff_left_iff_imp]
    intro hasks
    -- If it had succeeded, it would be one of those that found `error`.
    have hleft := List.filter_eq_nil_iff.mp hnone exchange hexchange
    simpa [hasks] using hleft

/-- Here names that begin like `error` are found, and `error` itself is not. -/
theorem marked_answers_errors :
    let start := (Table.blank defaultCapacity ({} : Heap)).opened
    let source := "int errors; lookup errors; lookup error; lookup error: local"
    let made := exchanges { table := start, sink := ({} : Transcript) } (split source)
    let entry : Entry := ⟨"err", .int, 0⟩
    made = [("int errors", .ok "Inserted 'errors' (INT) at level 0"),
        ("lookup errors", .ok "errors: INT (level 0)"),
        ("lookup error", .error (.table (.notFound "error"))),
        ("lookup error: local", .error (.usage .lookup))] ∧
      (run start ({} : Transcript) source).failures = 2 ∧
      (∀ exchange ∈ made, Marked (answerText exchange.2) ↔ exchange.2.isOk = false) ∧
      ¬ Marked entry.description := by
  intro start source made entry
  have hmade : made = [("int errors", .ok "Inserted 'errors' (INT) at level 0"),
      ("lookup errors", .ok "errors: INT (level 0)"),
      ("lookup error", .error (.table (.notFound "error"))),
      ("lookup error: local", .error (.usage .lookup))] := by decide +kernel
  have hnone : (made.filter fun exchange => exchange.2.isOk && asksForError exchange.1) = [] := by
    rw [hmade]
    decide +kernel
  let table := { start with scopes := [(Scope.fresh 0 none defaultCapacity).add entry] }
  have hfound : (Command.lookup "err").execute table = .done [] (.ok entry.description, table) :=
    rfl
  have hentry := (marked_answers (τ := Transcript) table).1 _ _ _ _ hfound
  obtain ⟨-, -, -, hmarks⟩ := (marked_answers start).2 ({} : Transcript) source
  obtain ⟨hcount, hmarked⟩ := hmarks hnone
  refine ⟨hmade, ?_, hmarked, ?_⟩
  · rw [← hcount]
    change (made.map fun exchange => answerText exchange.2).countP (fun text => Marked text) = 2
    rw [hmade]
    decide
  · rw [hentry]
    decide

/-- One lookup of `error` makes a script without a failure look like one with a failure. -/
theorem marked_success :
    let start := (Table.blank defaultCapacity ({} : Heap)).opened
    let source := "int error; lookup error"
    let whole := run start ({} : Transcript) source
    let made := exchanges { table := start, sink := ({} : Transcript) } (split source)
    made = [("int error", .ok "Inserted 'error' (INT) at level 0"),
        ("lookup error", .ok "error: INT (level 0)")] ∧
      whole.sink.text = "Inserted 'error' (INT) at level 0\nerror: INT (level 0)\n" ∧
      Marked "error: INT (level 0)" ∧ whole.failures = 0 ∧
      (made.map fun exchange => answerText exchange.2).countP (fun text => Marked text) = 1 := by
  intro start source whole made
  have hmade : made = [("int error", .ok "Inserted 'error' (INT) at level 0"),
      ("lookup error", .ok "error: INT (level 0)")] := by decide +kernel
  have hwhole : whole = run start ({} : Transcript) source := rfl
  refine ⟨hmade, ?_, by decide, ?_, ?_⟩
  · rw [hwhole, text_run]
    change transcriptText (made.map Prod.snd) = _
    rw [hmade]
    decide
  · rw [hwhole, run, runCommands, failures_foldl_step]
    change 0 + (made.map Prod.snd).countP _ = _
    rw [hmade]
    rfl
  · rw [hmade]
    decide

end Script

end Frontend
