import Frontend.Proofs.Table.Messages
import Frontend.Proofs.Table.WellNested

namespace Frontend

/-!
# The messages of a run as its chronicle

What a table reports for debugging is enough to draw the open scopes with their entries at any time,
without the table.

* `Sketch` — a scope as far as messages tell of it;
* `debugMessages` — the messages that tell of it;
* `redrawn?`, `replay?` — sketches after one message, and after many;
* `Table.Effect.redraw?` — the messages of one operation redraw the sketches of the scopes before it
  as those of the scopes after it;
* `Table.Effect.rootClosed_mem_iff` — when the closing of a root is reported;
* `Table.replay_of_run` — the messages of a run are its chronicle.
-/

/-- A scope as far as messages tell of it: not the level around it, nor its capacity. -/
structure Sketch where
  level : Nat
  entries : List Entry
  deriving DecidableEq

/-- What a scope is drawn as. -/
def Scope.sketch (scope : Scope) : Sketch := ⟨scope.level, scope.entries⟩

/-! ### Reading -/

/-- The messages among some events that are for debugging. -/
def debugMessages (events : List Event) : List String :=
  (events.filter (·.severity = .debug)).map Event.message

/-- The sketches after an event.  An opening on level 0 begins a new drawing, any other one adds a
    scope to it; a declaration goes into the innermost scope; a closing takes that scope away.
    `none` means that the event cannot have happened: there is no such scope, or it has not as many
    entries as it was closed with. -/
def Event.redraw? (sketches : List Sketch) : Event → Option (List Sketch)
  | opened level => some (⟨level, []⟩ :: if level = 0 then [] else sketches)
  | inserted name type level =>
    match sketches with
    | [] => none
    | sketch :: outer =>
      if sketch.level = level then
        some ({ sketch with entries := sketch.entries ++ [{ name, type, level }] } :: outer)
      else none
  | closed level count =>
    match sketches with
    | [] => none
    | sketch :: outer =>
      if sketch.level = level ∧ sketch.entries.length = count then some outer else none
  | started | restarted | rootClosed _ | nothingToClose | nowhereToInsert _ | growthRefused .. =>
    some sketches

/-- The sketches after a message; one that tells of no change leaves them as they are. -/
def redrawn? (sketches : List Sketch) (message : String) : Option (List Sketch) :=
  match Event.ofMessage? message with
  | some event => event.redraw? sketches
  | none => some sketches

/-- What the messages of a table tell of its scopes, from the first message on. -/
def replay? (messages : List String) : Option (List Sketch) :=
  messages.foldlM redrawn? []

/-- A message for debugging is as good as its event. -/
theorem redrawn?_message {event : Event} (h : event.severity = .debug) (sketches : List Sketch) :
    redrawn? sketches event.message = event.redraw? sketches := by
  cases event with
  | opened level => rw [redrawn?, Event.ofMessage?_opened]
  | inserted name type level => rw [redrawn?, Event.ofMessage?_inserted]
  | closed level count => rw [redrawn?, Event.ofMessage?_closed]
  | started => rw [redrawn?, Event.ofMessage?_started, Event.redraw?]
  | restarted => rw [redrawn?, Event.ofMessage?_restarted, Event.redraw?]
  | rootClosed | nothingToClose | nowhereToInsert | growthRefused => cases h

/-- Warnings change nothing. -/
theorem Event.redraw?_of_severity_ne {event : Event} (h : event.severity ≠ .debug)
    (sketches : List Sketch) : event.redraw? sketches = some sketches := by
  cases event with
  | rootClosed | nothingToClose | nowhereToInsert | growthRefused => rfl
  | _ => exact absurd rfl h

/-- So the messages for debugging among some events are as good as all of these. -/
theorem foldlM_debugMessages (events : List Event) (sketches : List Sketch) :
    (debugMessages events).foldlM redrawn? sketches = events.foldlM Event.redraw? sketches := by
  induction events generalizing sketches with
  | nil => rfl
  | cons event rest ih =>
    rw [List.foldlM_cons]
    -- A warning is left out of the messages, and changes nothing in the drawing.
    by_cases hdebug : event.severity = .debug
    · rw [debugMessages, List.filter_cons_of_pos (by simp [hdebug]), List.map_cons,
        List.foldlM_cons, redrawn?_message hdebug]
      exact bind_congr ih
    · rw [Event.redraw?_of_severity_ne hdebug, debugMessages,
        List.filter_cons_of_neg (by simp [hdebug])]
      exact ih sketches

/-- A closing that is told of takes away a scope of its level and with as many entries. -/
theorem exists_of_replay?_closed {before after : List String} {level count : Nat}
    {sketches : List Sketch}
    (h : replay? (before ++ (Event.closed level count).message :: after) = some sketches) :
    ∃ sketch outer, replay? before = some (sketch :: outer) ∧ sketch.level = level ∧
      sketch.entries.length = count := by
  -- The replay has come to its end, so it has come up to the closing and past it.
  rw [replay?, List.foldlM_append, Option.bind_eq_bind, Option.bind_eq_some_iff] at h
  obtain ⟨drawn, hbefore, hafter⟩ := h
  rw [List.foldlM_cons, redrawn?_message rfl, Option.bind_eq_bind,
    Option.bind_eq_some_iff] at hafter
  obtain ⟨_, hclosed, -⟩ := hafter
  cases drawn with
  | nil => cases hclosed
  | cons sketch outer =>
    rw [Event.redraw?] at hclosed
    split at hclosed
    · rename_i hscope
      exact ⟨sketch, outer, hbefore, hscope⟩
    · cases hclosed

namespace Table

variable {σ : Type} [Allocator σ]

/-! ### One operation -/

/-- Level 0 is given out first, and after that only by emptying a table. -/
theorem Effect.nextLevel_pos {table next : Table σ} {operation : Operation} {events : List Event}
    {response : Response} (heffect : Effect table operation events response next)
    (h : 0 < table.nextLevel) : 0 < next.nextLevel := by
  cases heffect with
  | opened hcan => exact Nat.succ_pos _
  | restarted hcan => exact Nat.succ_pos _
  | _ => exact h

/-- The events of an operation redraw the scopes before it as the scopes after it. -/
theorem Effect.redraw? {table next : Table σ} {operation : Operation} {events : List Event}
    {response : Response} (heffect : Effect table operation events response next)
    (h : 0 < table.nextLevel) :
    events.foldlM Event.redraw? (table.scopes.map Scope.sketch) =
      some (next.scopes.map Scope.sketch) := by
  cases heffect with
  | opened hcan => simp [Event.redraw?, Nat.pos_iff_ne_zero.mp h, Scope.sketch, Scope.fresh]
  | nothingToClose | nowhereToInsert | redeclared | growthRefused => rfl
  | @closed scope outer hscopes =>
    -- What is reported of a root besides its closing is no change.
    have hroot : scope.closingEvents.foldlM Event.redraw? (table.scopes.map Scope.sketch) =
        (Event.closed scope.level scope.count).redraw? (table.scopes.map Scope.sketch) := by
      rw [Scope.closingEvents]
      split <;> simp [Event.redraw?]
    rw [hroot, hscopes]
    simp [Event.redraw?, Scope.sketch, Scope.count]
  | inserted hscopes hnew hroom hentry =>
    obtain ⟨hlevel, -, hentries, -⟩ := Scope.of_makeRoom_eq_some hroom
    rw [hscopes]
    simp [Event.redraw?, Scope.sketch, Scope.add, hlevel, hentries]
  | restarted hcan => rfl

/-- What fails is not reported for debugging. -/
theorem Effect.debugMessages_of_refused {table next : Table σ} {operation : Operation}
    {events : List Event} {error : TableError}
    (heffect : Effect table operation events (.refused error) next) :
    debugMessages events = [] := by
  cases heffect <;> rfl

/-- The closing of a root is reported exactly when it leaves no scope open. -/
theorem Effect.rootClosed_mem_iff {table next : Table σ} {operation : Operation}
    {events : List Event} {response : Response}
    (heffect : Effect table operation events response next) (hnested : table.WellNested)
    {level : Nat} :
    .rootClosed level ∈ events ↔
      operation = .closeScope ∧ table.scopes.map Scope.level = [level] ∧ next.scopes = [] := by
  cases heffect with
  | @closed scope outer hscopes =>
    -- The warning is for a scope without an enclosing one, and that is the lowest.
    have houter : scope.enclosing = outer.head?.map Scope.level := by
      have hinner := hnested.enclosing 0 scope (by rw [hscopes]; rfl)
      rw [hinner, hscopes, List.getElem?_cons_succ, List.head?_eq_getElem?]
    cases outer with
    | nil => simp [Scope.closingEvents, houter, hscopes, eq_comm]
    | cons next outer => simp [Scope.closingEvents, houter, hscopes]
  | nothingToClose hscopes => simp [hscopes]
  | opened | nowhereToInsert | redeclared | growthRefused | inserted | restarted => simp

/-! ### A whole run -/

/-- The events of several operations redraw the scopes before them as the scopes after them. -/
theorem LeadsTo.redraw? {start last : Table σ} {turns : List Turn} {events : List Event}
    (hrun : start.LeadsTo turns events last) (h : 0 < start.nextLevel) :
    events.foldlM Event.redraw? (start.scopes.map Scope.sketch) =
      some (last.scopes.map Scope.sketch) := by
  induction hrun with
  | nil => rfl
  | snoc hearlier heffect ih =>
    have hmiddle := hearlier.invariant (0 < ·.nextLevel) Effect.nextLevel_pos h
    rw [List.foldlM_append, ih, Option.bind_eq_bind, Option.bind_some]
    exact heffect.redraw? hmiddle

variable {capacity : Nat} {allocator : σ} {start last : Table σ} {created events : List Event}
  {history : List Operation} {responses : List Response}

/-- From its creation on, the messages of a table tell its open scopes. -/
theorem replay?_debugMessages (hcreate : create capacity allocator = .done created start)
    (hrun : start.run history = .done events (responses, last)) :
    replay? (debugMessages (created ++ events)) = some (last.scopes.map Scope.sketch) := by
  obtain ⟨hcan, rfl, rfl⟩ := create_eq_done_iff.mp hcreate
  rw [replay?, foldlM_debugMessages, List.foldlM_append]
  -- The two messages of the creation draw the root.
  exact (leadsTo_of_run hrun).redraw? (Nat.succ_pos _)

/-- **The messages for debugging are a chronicle of the table.**  At the end of every run, and so
    after every operation of it, replaying them alone gives the open scopes with their levels and
    their entries, whatever characters the names in them have; and where a closing is told of, the
    scope drawn innermost has the level and the number of entries it tells.

    What fails is not reported for debugging.  The closing of a root is reported as a warning by the
    closings that take a table from one open scope to none, and by nothing else.  So two runs with
    the same messages for debugging, on any allocators, end with the same scopes and entries. -/
theorem replay_of_run (hcreate : create capacity allocator = .done created start)
    (hrun : start.run history = .done events (responses, last)) :
    let messages := debugMessages (created ++ events)
    replay? messages = some (last.scopes.map Scope.sketch) ∧
      (∀ before after level count,
        messages = before ++ (Event.closed level count).message :: after →
          ∃ sketch outer, replay? before = some (sketch :: outer) ∧ sketch.level = level ∧
            sketch.entries.length = count) ∧
      (∀ operation reported response next,
        last.apply operation = .done reported (response, next) →
          (∀ error, response = .refused error → debugMessages reported = []) ∧
          ∀ level, .rootClosed level ∈ reported ↔
            operation = .closeScope ∧ last.scopes.map Scope.level = [level] ∧ next.scopes = []) ∧
      (∀ (τ : Type) [Allocator τ] (capacity' : Nat) (allocator' : τ) (start' last' : Table τ)
        (created' events' : List Event) (history' : List Operation) (responses' : List Response),
        create capacity' allocator' = .done created' start' →
          start'.run history' = .done events' (responses', last') →
          debugMessages (created' ++ events') = messages →
          last'.scopes.map Scope.sketch = last.scopes.map Scope.sketch) := by
  intro messages
  have hreplay : replay? messages = some (last.scopes.map Scope.sketch) :=
    replay?_debugMessages hcreate hrun
  have hnested : last.WellNested :=
    wellNested_of_reachedBy ⟨_, _, _, _, _, _, hcreate, hrun⟩
  refine ⟨hreplay, ?_, ?_, ?_⟩
  · intro before after level count hmessages
    exact exists_of_replay?_closed (hmessages ▸ hreplay)
  · intro operation reported response next happly
    have heffect := effect_of_apply happly
    refine ⟨?_, fun level => heffect.rootClosed_mem_iff hnested⟩
    rintro error rfl
    exact heffect.debugMessages_of_refused
  · intro τ _ capacity' allocator' start' last' created' events' history' responses' hcreate'
      hrun' hsame
    have hreplay' := replay?_debugMessages hcreate' hrun'
    rw [hsame, hreplay] at hreplay'
    exact (Option.some.inj hreplay').symm

/-- A run with a name that reads like the end of a message, a refused growth, a lost root, refusals
    without a scope, and two scopes that begin a new stack. -/
theorem replay_of_run_quoted :
    let name := "x' (INT) into scope level 7'"
    let history : List Operation :=
      [.insert name .float, .openScope, .insert name .int, .reset, .insert name .int,
        .insert "y" .int, .closeScope, .closeScope, .insert name .int, .openScope,
        .insert name .void, .insert name .char]
    ∃ created start events responses last,
      create 1 (Capped.mk 1) = .done created start ∧
        start.run history = .done events (responses, last) ∧
        replay? (debugMessages (created ++ events)) = some [⟨1, [⟨name, .void, 1⟩]⟩] := by
  intro name history
  have hcreate : create 1 (Capped.mk 1) = .done _ _ := rfl
  have hrun : (blank 1 (Capped.mk 1)).opened.run history = .done _ (_, _) := rfl
  exact ⟨_, _, _, _, _, hcreate, hrun, (replay_of_run hcreate hrun).1⟩

end Table

end Frontend
