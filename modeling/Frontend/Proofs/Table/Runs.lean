import Frontend.Proofs.Table.Effect
import Frontend.Proofs.Trace

namespace Frontend

/-!
# Runs of operations

What an operation does was said by `Table.Effect`; this is about many, one after the other.

* `Turn` — an operation together with its response;
* `Table.LeadsTo` — the turns that lead from one table to another, as a trace;
* `Table.leadsTo_of_run` — what `Table.run` carries out to the end is such a trace;
* `Table.moments` — the tables a run passes through;
* `Table.invariant_of_reachedBy` — what holds of a fresh table and is kept by every effect holds of
  every table that is ever reached.
-/

/-- An operation together with its response. -/
abbrev Turn := Operation × Response

namespace Table

variable {σ : Type} [Allocator σ]

/-- The turns that lead from `start` to another table, and all that was reported meanwhile. -/
abbrev LeadsTo (start : Table σ) : List Turn → List Event → Table σ → Prop :=
  Trace (fun table turn events next => Effect table turn.1 events turn.2 next) start

/-! ### Runs as they are computed -/

variable {table last : Table σ} {history rest : List Operation} {events : List Event}
  {responses : List Response}

/-- A run of at least one operation, taken apart after the first. -/
theorem of_run_cons_eq_done {operation : Operation}
    (h : table.run (operation :: rest) = .done events (responses, last)) :
    ∃ reported response middle later tail,
      Effect table operation reported response middle ∧
        middle.run rest = .done later (tail, last) ∧
        events = reported ++ later ∧ responses = response :: tail := by
  rw [run, Outcome.bind_eq_done_iff] at h
  obtain ⟨reported, ⟨response, middle⟩, _, hfirst, hrest, rfl⟩ := h
  obtain ⟨later, ⟨tail, last'⟩, _, hlater, hreturn, rfl⟩ := Outcome.bind_eq_done_iff.mp hrest
  cases hreturn
  exact ⟨reported, response, middle, later, tail, effect_of_apply hfirst, hlater, by simp, rfl⟩

/-- The same put together. -/
theorem run_cons_eq_done {operation : Operation} {middle : Table σ} {reported later : List Event}
    {response : Response} {tail : List Response}
    (heffect : Effect table operation reported response middle)
    (hrest : middle.run rest = .done later (tail, last)) :
    table.run (operation :: rest) = .done (reported ++ later) (response :: tail, last) := by
  simp [run, apply_eq_done_iff.mpr heffect, hrest]

/-- A run of two histories, taken apart between them. -/
theorem of_run_append_eq_done {first second : List Operation}
    (h : table.run (first ++ second) = .done events (responses, last)) :
    ∃ reported answers middle later tail,
      table.run first = .done reported (answers, middle) ∧
        middle.run second = .done later (tail, last) ∧
        events = reported ++ later ∧ responses = answers ++ tail := by
  rw [run_append, Outcome.bind_eq_done_iff] at h
  obtain ⟨reported, ⟨answers, middle⟩, _, hfirst, hrest, rfl⟩ := h
  obtain ⟨later, ⟨tail, last'⟩, _, hsecond, hreturn, rfl⟩ := Outcome.bind_eq_done_iff.mp hrest
  cases hreturn
  exact ⟨reported, answers, middle, later, tail, hfirst, hsecond, by simp, rfl⟩

/-- Every operation of a run has its response. -/
theorem length_of_run_eq_done (h : table.run history = .done events (responses, last)) :
    responses.length = history.length := by
  induction history generalizing table events responses with
  | nil =>
    cases h
    rfl
  | cons operation rest ih =>
    obtain ⟨_, response, middle, _, tail, -, hrest, -, rfl⟩ := of_run_cons_eq_done h
    rw [List.length_cons, List.length_cons, ih hrest]

/-- What is carried out to the end is a trace, each operation paired with its response. -/
theorem leadsTo_of_run (h : table.run history = .done events (responses, last)) :
    table.LeadsTo (history.zip responses) events last := by
  induction history generalizing table events responses with
  | nil =>
    cases h
    exact .nil
  | cons operation rest ih =>
    obtain ⟨_, response, middle, _, tail, heffect, hrest, rfl, rfl⟩ := of_run_cons_eq_done h
    exact .cons heffect (ih hrest)

/-- A run leaves the capacity that new scopes get. -/
theorem initialCapacity_of_run (h : table.run history = .done events (responses, last)) :
    last.initialCapacity = table.initialCapacity := by
  refine (leadsTo_of_run h).invariant
    (fun moment => moment.initialCapacity = table.initialCapacity) (fun heffect hsame => ?_) rfl
  exact heffect.initialCapacity.trans hsame

/-- The tables a run passes through, from the one it starts from to the one it ends in. -/
def moments (table : Table σ) : List Operation → List (Table σ)
  | [] => [table]
  | operation :: rest =>
    match table.apply operation with
    | .done _ (_, next) => table :: next.moments rest
    | .aborted _ _ => [table]

theorem moments_cons {operation : Operation} {reported : List Event} {response : Response}
    {next : Table σ} (heffect : Effect table operation reported response next)
    (rest : List Operation) :
    table.moments (operation :: rest) = table :: next.moments rest := by
  rw [moments, apply_eq_done_iff.mpr heffect]

theorem mem_moments_self (table : Table σ) (history : List Operation) :
    table ∈ table.moments history := by
  cases history with
  | nil => exact List.mem_singleton_self table
  | cons operation rest =>
    rw [moments]
    split <;> exact List.mem_cons_self

theorem last_mem_moments (h : table.run history = .done events (responses, last)) :
    last ∈ table.moments history := by
  induction history generalizing table events responses with
  | nil =>
    cases h
    exact mem_moments_self _ []
  | cons operation rest ih =>
    obtain ⟨_, _, middle, _, _, heffect, hrest, -, -⟩ := of_run_cons_eq_done h
    rw [moments_cons heffect]
    exact List.mem_cons_of_mem _ (ih hrest)

/-- **Induction over everything that can have happened to a table.**  What holds of a table with
    nothing but its root open, and is kept by every effect, holds of every table reached. -/
theorem invariant_of_reachedBy {Inv : Table σ → Prop}
    (hroot : ∀ {capacity : Nat} {allocator : σ}, (blank capacity allocator).CanOpen →
      Inv (blank capacity allocator).opened)
    (hstep : ∀ {table next : Table σ} {operation : Operation} {reported : List Event}
      {response : Response}, Effect table operation reported response next → Inv table → Inv next)
    (h : table.ReachedBy history) : Inv table := by
  obtain ⟨capacity, allocator, start, responses, _, _, hcreate, hrun⟩ := h
  obtain ⟨hcan, -, rfl⟩ := create_eq_done_iff.mp hcreate
  exact (leadsTo_of_run hrun).invariant Inv hstep (hroot hcan)

end Table

end Frontend
