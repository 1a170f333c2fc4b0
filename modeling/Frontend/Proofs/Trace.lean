import Frontend.Event

namespace Frontend

/-!
# Traces

Steps taken one after the other, as a relation that grows by one step at its end.

* `Trace Step start` — the actions that lead from `start` to another state, by a given step
  relation, and what was reported on the way;
* `Trace.cons` — a trace may also be begun one step earlier;
* `Trace.invariant` — what every step keeps is kept by a trace.
-/

variable {State Action : Type}

/-- The actions that lead from `start` to another state, the latest last, and all that was reported
    on the way. -/
inductive Trace (Step : State → Action → List Event → State → Prop) (start : State) :
    List Action → List Event → State → Prop
  | nil : Trace Step start [] [] start
  | snoc {actions : List Action} {events reported : List Event} {middle last : State}
      {action : Action} (htrace : Trace Step start actions events middle)
      (hstep : Step middle action reported last) :
      Trace Step start (actions ++ [action]) (events ++ reported) last

namespace Trace

variable {Step : State → Action → List Event → State → Prop} {start middle last : State}
  {actions : List Action} {events : List Event}

/-- A trace may also be begun one step earlier. -/
theorem cons {action : Action} {reported : List Event} (hstep : Step start action reported middle)
    (htrace : Trace Step middle actions events last) :
    Trace Step start (action :: actions) (reported ++ events) last := by
  induction htrace with
  | nil => simpa using snoc nil hstep
  | snoc _ hlater ih =>
    rw [← List.cons_append, ← List.append_assoc]
    exact snoc ih hlater

/-- What every step keeps is kept by a trace. -/
theorem invariant (Inv : State → Prop)
    (hkeeps : ∀ {state next : State} {action : Action} {reported : List Event},
      Step state action reported next → Inv state → Inv next)
    (htrace : Trace Step start actions events last) (hstart : Inv start) : Inv last := by
  induction htrace with
  | nil => exact hstart
  | snoc _ hstep ih => exact hkeeps hstep ih

end Trace

end Frontend
