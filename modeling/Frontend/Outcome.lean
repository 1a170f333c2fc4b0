import Frontend.Event

namespace Frontend

/-!
# Outcomes

* `Outcome α` — what an operation leaves behind: the events it reported, and either a value or the
  fatal condition that ended the program.

Operations are chained with `Outcome.bind`; the events come out in the order they were reported, and
nothing happens after a fatal condition.
-/

/-- How an operation went. -/
inductive Outcome (α : Type) where
  /-- It ran to its end, reporting `events`, with `value` as its result. -/
  | done (events : List Event) (value : α)
  /-- It was ended by `cause`, having reported `events` before. -/
  | aborted (events : List Event) (cause : Fatal)

namespace Outcome

variable {α β γ : Type}

/-- The events reported on the way. -/
def events : Outcome α → List Event
  | done events _ => events
  | aborted events _ => events

/-- The result, if there is one. -/
def value? : Outcome α → Option α
  | done _ value => some value
  | aborted _ _ => none

/-- Reports `earlier` before everything an outcome reports. -/
def after (earlier : List Event) : Outcome α → Outcome α
  | done events value => done (earlier ++ events) value
  | aborted events cause => aborted (earlier ++ events) cause

/-- One operation, then another on its result. -/
def bind : Outcome α → (α → Outcome β) → Outcome β
  | done events value, next => (next value).after events
  | aborted events cause, _ => aborted events cause

instance : Monad Outcome where
  pure value := done [] value
  bind := bind

@[simp] theorem pure_eq (value : α) : (pure value : Outcome α) = done [] value := rfl

@[simp] theorem done_bind (events : List Event) (value : α) (next : α → Outcome β) :
    (done events value >>= next) = (next value).after events := rfl

@[simp] theorem aborted_bind (events : List Event) (cause : Fatal) (next : α → Outcome β) :
    (aborted events cause >>= next) = aborted events cause := rfl

@[simp] theorem after_done (earlier events : List Event) (value : α) :
    (done events value).after earlier = done (earlier ++ events) value := rfl

@[simp] theorem after_aborted (earlier events : List Event) (cause : Fatal) :
    (aborted events cause : Outcome α).after earlier = aborted (earlier ++ events) cause := rfl

/-- Two operations, one after the other, run to their end if each of them does. -/
theorem bind_eq_done_iff {outcome : Outcome α} {next : α → Outcome β} {events : List Event}
    {value : β} :
    outcome >>= next = done events value ↔
      ∃ earlier result later, outcome = done earlier result ∧ next result = done later value ∧
        events = earlier ++ later := by
  cases outcome with
  | aborted earlier cause => simp
  | done earlier result =>
    rw [done_bind]
    constructor
    · intro h
      cases hnext : next result with
      | aborted later cause =>
        rw [hnext] at h
        cases h
      | done later value' =>
        rw [hnext] at h
        cases h
        exact ⟨earlier, result, later, rfl, hnext, rfl⟩
    · rintro ⟨_, _, later, hdone, hnext, rfl⟩
      cases hdone
      rw [hnext, after_done]

/-- Reporting one event. -/
def report (event : Event) : Outcome Unit := done [event] ()

end Outcome

end Frontend
