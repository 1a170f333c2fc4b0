import Frontend.Proofs.Table.Runs

namespace Frontend

/-!
# The lifetime of a scope

How a scope that is open at one point of a run fares through the rest of it.  Responses alone tell
how long it stays open: scopes are closed from the inside out, so it is closed by the first closing
that finds no scope inside it.

* `inside?` — the number of scopes open inside a given one after some responses, as long as that
  one is still open itself;
* `Scope.GrowsTo` — what can become of a scope while it is open;
* `Table.LeadsTo.grows`, `Table.grows_of_run` — through a run that leaves it open, a scope grows
  and the scopes around it stay exactly as they were;
* `Table.nextLevel_of_run` — the next level counts the openings.
-/

/-! ### How long a scope stays open -/

/-- The number of scopes inside a given one after one response, where there were `inside` before.
    `none` means that this response closed the given scope, or dropped it with all others. -/
def Response.inside? : Nat → Response → Option Nat
  | inside, .opened _ => some (inside + 1)
  | 0, .closed _ => none
  | inside + 1, .closed _ => some inside
  | _, .restarted => none
  | inside, .inserted _ => some inside
  | inside, .refused _ => some inside

/-- The number of scopes inside a given one after several responses; `none` once it is gone. -/
def inside? (inside : Nat) (responses : List Response) : Option Nat :=
  responses.foldlM Response.inside? inside

@[simp] theorem inside?_nil (inside : Nat) : inside? inside [] = some inside := rfl

theorem inside?_cons (inside : Nat) (response : Response) (responses : List Response) :
    inside? inside (response :: responses) =
      (response.inside? inside).bind (inside? · responses) := rfl

theorem inside?_snoc (inside : Nat) (responses : List Response) (response : Response) :
    inside? inside (responses ++ [response]) =
      (inside? inside responses).bind (response.inside? ·) := by
  simp [inside?, List.foldlM_append]

/-- A scope inside which one more was opened and closed again is as far in as before. -/
example : inside? 0 [.opened 1, .inserted ⟨"x", .int, 1⟩, .closed 1] = some 0 := by decide

/-! ### What becomes of an open scope -/

/-- What can become of a scope while it is open: it gains entries after those it has, and room. -/
structure Scope.GrowsTo (scope later : Scope) : Prop where
  level : later.level = scope.level
  enclosing : later.enclosing = scope.enclosing
  entries : scope.entries <+: later.entries
  capacity : scope.capacity ≤ later.capacity

namespace Scope.GrowsTo

theorem refl (scope : Scope) : scope.GrowsTo scope :=
  ⟨rfl, rfl, List.prefix_rfl, Nat.le_refl _⟩

theorem trans {first second third : Scope} (h : first.GrowsTo second)
    (h' : second.GrowsTo third) : first.GrowsTo third where
  level := h'.level.trans h.level
  enclosing := h'.enclosing.trans h.enclosing
  entries := h.entries.trans h'.entries
  capacity := Nat.le_trans h.capacity h'.capacity

/-- Room for an entry, and then the entry. -/
theorem add {σ : Type} [Allocator σ] {scope roomy : Scope} {before after : σ}
    (hroom : scope.makeRoom before = (some roomy, after)) (entry : Entry) :
    scope.GrowsTo (roomy.add entry) := by
  obtain ⟨hlevel, henclosing, hentries, hcapacity⟩ := of_makeRoom_eq_some hroom
  refine ⟨hlevel, henclosing, ?_, hcapacity⟩
  rw [← hentries]
  exact List.prefix_append _ _

end Scope.GrowsTo

namespace Table

variable {σ : Type} [Allocator σ]

/-- One operation that leaves a scope open lets it grow and leaves everything around it as it
    was. -/
theorem Effect.grows {table next : Table σ} {operation : Operation} {events : List Event}
    {response : Response} (heffect : Effect table operation events response next)
    {before after : Nat} {scope : Scope} {outer : List Scope}
    (hscope : table.scopes.drop before = scope :: outer)
    (hinside : response.inside? before = some after) :
    ∃ later, next.scopes.drop after = later :: outer ∧ scope.GrowsTo later := by
  cases heffect with
  | opened hcan =>
    -- One more scope lies inside the given one, and one more is passed over to reach it.
    cases hinside
    exact ⟨scope, hscope, .refl scope⟩
  | nothingToClose | nowhereToInsert | redeclared | growthRefused =>
    cases hinside
    exact ⟨scope, hscope, .refl scope⟩
  | closed hscopes =>
    cases before with
    | zero => cases hinside
    | succ before =>
      -- The scope that is closed is one of those inside.
      cases hinside
      rw [hscopes] at hscope
      exact ⟨scope, hscope, .refl scope⟩
  | inserted hscopes hnew hroom hentry =>
    cases hinside
    rw [hscopes] at hscope
    cases before with
    | zero =>
      -- The given scope is the innermost one, and it is the one declared in.
      cases hscope
      exact ⟨_, rfl, .add hroom _⟩
    | succ before => exact ⟨scope, hscope, .refl scope⟩
  | restarted hcan => cases hinside

/-- **A scope that stays open only grows, and the scopes around it stay as they were.** -/
theorem LeadsTo.grows {start last : Table σ} {turns : List Turn} {events : List Event}
    (hrun : LeadsTo start turns events last) {before after : Nat} {scope : Scope}
    {outer : List Scope} (hscope : start.scopes.drop before = scope :: outer)
    (hinside : inside? before (turns.map Prod.snd) = some after) :
    ∃ later, last.scopes.drop after = later :: outer ∧ scope.GrowsTo later := by
  -- By induction from the start on: what is around the scope has to be the same all along.
  induction hrun generalizing after with
  | nil =>
    cases hinside
    exact ⟨scope, hscope, .refl scope⟩
  | snoc _ heffect ih =>
    rw [List.map_append, List.map_singleton, inside?_snoc, Option.bind_eq_some_iff] at hinside
    obtain ⟨between, hbetween, hafter⟩ := hinside
    obtain ⟨middle, hmiddle, hgrown⟩ := ih hbetween
    obtain ⟨later, hlater, hgrown'⟩ := heffect.grows hmiddle hafter
    exact ⟨later, hlater, hgrown.trans hgrown'⟩

/-- The same of a run as it is computed. -/
theorem grows_of_run {table last : Table σ} {history : List Operation} {events : List Event}
    {responses : List Response} (hrun : table.run history = .done events (responses, last))
    {before after : Nat} {scope : Scope} {outer : List Scope}
    (hscope : table.scopes.drop before = scope :: outer)
    (hinside : inside? before responses = some after) :
    ∃ later, last.scopes.drop after = later :: outer ∧ scope.GrowsTo later := by
  have hresponses : (history.zip responses).map Prod.snd = responses :=
    List.map_snd_zip (Nat.le_of_eq (length_of_run_eq_done hrun))
  exact (leadsTo_of_run hrun).grows hscope (hresponses.symm ▸ hinside)

/-! ### The next level -/

/-- Openings are counted by the next level, and nothing else is. -/
theorem Effect.nextLevel {table next : Table σ} {operation : Operation} {events : List Event}
    {response : Response} (heffect : Effect table operation events response next)
    (hreset : operation ≠ .reset) :
    next.nextLevel = table.nextLevel + [operation].count .openScope := by
  cases heffect with
  | restarted hcan => exact absurd rfl hreset
  | _ => rfl

/-- Between two resets, the next level counts the openings. -/
theorem nextLevel_of_run {table last : Table σ} {history : List Operation} {events : List Event}
    {responses : List Response} (h : table.run history = .done events (responses, last))
    (hreset : .reset ∉ history) :
    last.nextLevel = table.nextLevel + history.count .openScope := by
  induction history generalizing table events responses with
  | nil =>
    cases h
    rfl
  | cons operation rest ih =>
    rw [List.mem_cons, not_or] at hreset
    obtain ⟨_, _, middle, _, _, heffect, hrest, -, -⟩ := of_run_cons_eq_done h
    rw [ih hrest hreset.2, heffect.nextLevel (Ne.symm hreset.1), Nat.add_assoc,
      ← List.count_append]
    rfl

end Table

end Frontend
