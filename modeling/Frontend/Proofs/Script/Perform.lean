import Frontend.Proofs.Table.Effect
import Frontend.Script.Run

namespace Frontend

/-!
# What one line of a script does

A line either asks a table for one of its operations or leaves it alone.

* `Command.operation?` — the operation a command asks for, if any;
* `Response.answer` — the words a response is put in;
* `lineOperation?` — the operation a line asks for;
* `effect_of_perform` — a line has an effect on the table exactly as its operation has one, and
  none at all without an operation;
* `invariant_of_perform` — so what every operation keeps is kept by every line;
* `apply_of_perform_eq_aborted` — nor does a line end the program but by its operation.
-/

/-- What comes of a line: the text to show, or why there is none. -/
abbrev Answer := Except CommandError String

/-! ### Commands and operations -/

/-- The operation a command asks a table for; `none` for a command that only looks. -/
def Command.operation? : Command → Option Operation
  | openScope => some .openScope
  | closeScope => some .closeScope
  | insert name type => some (.insert name type)
  | reset => some .reset
  | lookup _ | lookupCurrent _ | dump | state | help => none

/-- A response in words. -/
def Response.answer : Response → Answer
  | opened level => .ok s!"Opened scope level {level}"
  | closed level => .ok s!"Closed scope level {level}"
  | inserted entry => .ok s!"Inserted '{entry.name}' ({entry.type.name}) at level {entry.level}"
  | restarted => .ok "Symbol table reset"
  | refused error => .error (.table error)

/-- Only refusals are no success. -/
theorem Response.isOk_answer_eq_false_iff {response : Response} :
    response.answer.isOk = false ↔ ∃ error, response = .refused error := by
  cases response <;> simp [answer, Except.toBool]

variable {σ : Type} [Allocator σ]

/-- A command that asks for an operation carries it out and words the response. -/
theorem Command.execute_of_operation? {command : Command} {operation : Operation}
    (h : command.operation? = some operation) (table : Table σ) :
    command.execute table = (do
      let (response, table) ← table.apply operation
      return (response.answer, table)) := by
  cases command with
  | openScope =>
    cases h
    simp only [execute, Table.apply]
    cases table.openScope <;> simp [Response.answer]
  | closeScope =>
    cases h
    simp only [execute, Table.apply]
    rcases table.closeScope with ⟨events, _ | level, next⟩ | ⟨events, cause⟩ <;>
      simp [Response.answer]
  | insert name type =>
    cases h
    simp only [execute, Table.apply]
    rcases table.insert name type with ⟨events, _ | entry, next⟩ | ⟨events, cause⟩ <;>
      simp [Response.answer]
  | reset =>
    cases h
    simp only [execute, Table.apply]
    cases table.reset <;> simp [Response.answer]
  | lookup _ | lookupCurrent _ | dump | state | help => cases h

/-- So it is answered in these words. -/
theorem Command.exists_response_of_execute {command : Command} {operation : Operation}
    (h : command.operation? = some operation) {table next : Table σ} {events : List Event}
    {answer : Answer} (hexecute : command.execute table = .done events (answer, next)) :
    ∃ response : Response, table.apply operation = .done events (response, next) ∧
      response.answer = answer := by
  rw [execute_of_operation? h, Outcome.bind_eq_done_iff] at hexecute
  obtain ⟨reported, ⟨response, _⟩, _, happly, hreturn, rfl⟩ := hexecute
  cases hreturn
  exact ⟨response, by rw [List.append_nil, happly], rfl⟩

/-- A command that only looks reports nothing and leaves the table as it is. -/
theorem Command.execute_of_operation?_eq_none {command : Command} (h : command.operation? = none)
    (table : Table σ) : ∃ answer, command.execute table = .done [] (answer, table) := by
  cases command with
  | openScope | closeScope | insert _ _ | reset => cases h
  | lookup name =>
    simp only [execute]
    cases table.resolve name <;> exact ⟨_, rfl⟩
  | lookupCurrent name =>
    simp only [execute]
    cases table.lookupCurrent name <;> exact ⟨_, rfl⟩
  | dump | state | help => exact ⟨_, rfl⟩

/-! ### Lines -/

/-- The operation a line asks for; `none` for one that only looks, or is no command. -/
def lineOperation? (line : String) : Option Operation :=
  match Command.parse line with
  | .ok command => command.operation?
  | .error _ => none

/-- A line that asks for an operation has one of its effects. -/
theorem effect_of_perform {table next : Table σ} {line : String} {events : List Event}
    {answer : Answer} {operation : Operation}
    (hperform : perform table line = .done events (answer, next))
    (hline : lineOperation? line = some operation) :
    ∃ response, table.Effect operation events response next ∧ answer = response.answer := by
  unfold lineOperation? at hline
  unfold perform at hperform
  cases hparse : Command.parse line with
  | error error => simp [hparse] at hline
  | ok command =>
    rw [hparse] at hline hperform
    change command.execute table = _ at hperform
    obtain ⟨response, happly, hanswer⟩ := Command.exists_response_of_execute hline hperform
    exact ⟨response, Table.effect_of_apply happly, hanswer.symm⟩

/-- A line that asks for none leaves the table alone. -/
theorem eq_of_perform {table next : Table σ} {line : String} {events : List Event}
    {answer : Answer} (hperform : perform table line = .done events (answer, next))
    (hline : lineOperation? line = none) : events = [] ∧ next = table := by
  unfold lineOperation? at hline
  unfold perform at hperform
  cases hparse : Command.parse line with
  | error error =>
    rw [hparse] at hperform
    cases hperform
    exact ⟨rfl, rfl⟩
  | ok command =>
    rw [hparse] at hline hperform
    obtain ⟨answer', hexecute⟩ := Command.execute_of_operation?_eq_none hline table
    cases hexecute.symm.trans hperform
    exact ⟨rfl, rfl⟩

/-- What every operation keeps is kept by every line. -/
theorem invariant_of_perform {Inv : Table σ → Prop}
    (hkeeps : ∀ {table next : Table σ} {operation : Operation} {reported : List Event}
      {response : Response}, table.Effect operation reported response next → Inv table → Inv next)
    {table next : Table σ} {line : String} {events : List Event} {answer : Answer}
    (hperform : perform table line = .done events (answer, next)) (h : Inv table) : Inv next := by
  cases hline : lineOperation? line with
  | none =>
    rw [(eq_of_perform hperform hline).2]
    exact h
  | some operation =>
    obtain ⟨response, heffect, -⟩ := effect_of_perform hperform hline
    exact hkeeps heffect h

/-- A line ends the program only by the operation that it asks for. -/
theorem apply_of_perform_eq_aborted {table : Table σ} {line : String} {events : List Event}
    {cause : Fatal} (habort : perform table line = .aborted events cause) :
    ∃ operation, lineOperation? line = some operation ∧
      table.apply operation = .aborted events cause := by
  unfold lineOperation?
  unfold perform at habort
  cases hparse : Command.parse line with
  | error error =>
    rw [hparse] at habort
    cases habort
  | ok command =>
    rw [hparse] at habort
    change command.execute table = _ at habort
    cases hcommand : command.operation? with
    | none =>
      obtain ⟨answer, hexecute⟩ := Command.execute_of_operation?_eq_none hcommand table
      rw [hexecute] at habort
      cases habort
    | some operation =>
      rw [Command.execute_of_operation? hcommand] at habort
      refine ⟨operation, hcommand, ?_⟩
      cases happly : table.apply operation with
      | aborted reported cause' =>
        rw [happly, Outcome.aborted_bind] at habort
        cases habort
        rfl
      | done reported result =>
        rw [happly] at habort
        cases habort

end Frontend
