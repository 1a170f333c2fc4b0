import Frontend.Proofs.Table.Lifetime
import Frontend.Table.Dump

namespace Frontend

/-!
# What a run leaves alone

A run reaches down only as far as it closes scopes.

* `Table.lowest` — the lowest open scopes of a table;
* `Table.inside?_of_le_depth` — a scope below which the depth never falls stays open;
* `Table.lowest_of_run` — the scopes below the least depth of a run are untouched, and the one at
  that depth only grows;
* `Table.scopes_of_block` — opening a scope, working in it and closing it again restores the stack.
-/

namespace Table

variable {σ : Type}

/-- The `count` lowest open scopes, the innermost of them first. -/
def lowest (table : Table σ) (count : Nat) : List Scope :=
  table.scopes.drop (table.depth - count)

theorem lowest_pred {table : Table σ} {scope : Scope} {outer : List Scope} {count : Nat}
    (hpositive : 1 ≤ count) (hdepth : count ≤ table.depth)
    (hlowest : table.lowest count = scope :: outer) : table.lowest (count - 1) = outer := by
  have hnext : table.depth - (count - 1) = table.depth - count + 1 := by omega
  rw [lowest, hnext, ← List.tail_drop, ← lowest, hlowest, List.tail_cons]

theorem exists_lowest_eq_cons {table : Table σ} {count : Nat} (hpositive : 1 ≤ count)
    (hdepth : count ≤ table.depth) : ∃ scope outer, table.lowest count = scope :: outer := by
  refine List.exists_cons_of_ne_nil fun hnil => ?_
  rw [lowest, List.drop_eq_nil_iff] at hnil
  unfold depth at hnil hdepth
  omega

variable [Allocator σ]

/-! ### Down to the least depth -/

/-- A step between two tables of depth `least` or more leaves the scope at depth `least` open. -/
theorem Effect.inside?_of_le_depth {table next : Table σ} {operation : Operation}
    {events : List Event} {response : Response}
    (heffect : Effect table operation events response next) (hreset : operation ≠ .reset)
    {least : Nat} (hbefore : least ≤ table.depth) (hafter : least ≤ next.depth) :
    response.inside? (table.depth - least) = some (next.depth - least) := by
  cases heffect with
  | opened hcan =>
    show some (table.depth - least + 1) = some (table.depth + 1 - least)
    rw [Nat.succ_sub hbefore]
  | nothingToClose | nowhereToInsert | redeclared | growthRefused => rfl
  | closed hscopes =>
    -- The depth after it is `least` or more, so the scope that is closed lies inside.
    rename_i scope outer
    have hdepth : table.depth = outer.length + 1 := by rw [depth, hscopes, List.length_cons]
    have hleast : least ≤ outer.length := hafter
    rw [hdepth, Nat.succ_sub hleast]
    rfl
  | inserted hscopes hnew hroom hentry =>
    rename_i scope roomy outer _ _
    show some (table.depth - least) = some (outer.length + 1 - least)
    rw [depth, hscopes, List.length_cons]
  | restarted hcan => exact absurd rfl hreset

/-- A run that never gets below depth `least` leaves the scope at that depth open. -/
theorem inside?_of_le_depth {table last : Table σ} {segment : List Operation}
    {events : List Event} {responses : List Response}
    (hrun : table.run segment = .done events (responses, last)) (hreset : .reset ∉ segment)
    {least : Nat} (hleast : ∀ moment ∈ table.moments segment, least ≤ moment.depth) :
    inside? (table.depth - least) responses = some (last.depth - least) := by
  -- The number of scopes inside is the distance to `least` at every moment, by one step at a time.
  induction segment generalizing table events responses with
  | nil =>
    cases hrun
    rfl
  | cons operation rest ih =>
    obtain ⟨_, response, middle, _, tail, heffect, hrest, -, rfl⟩ := of_run_cons_eq_done hrun
    rw [List.mem_cons, not_or] at hreset
    rw [moments_cons heffect, List.forall_mem_cons] at hleast
    have hmiddle : least ≤ middle.depth := hleast.2 middle (mem_moments_self middle rest)
    rw [inside?_cons, heffect.inside?_of_le_depth (Ne.symm hreset.1) hleast.1 hmiddle]
    exact ih hrest hreset.2 hleast.2

/-- **Only the scope at the least depth can have changed, and only by growing.** -/
theorem lowest_of_run {table last : Table σ} {segment : List Operation} {events : List Event}
    {responses : List Response} (hrun : table.run segment = .done events (responses, last))
    (hreset : .reset ∉ segment) {least : Nat} (hpositive : 1 ≤ least)
    (hleast : ∀ moment ∈ table.moments segment, least ≤ moment.depth) :
    last.lowest (least - 1) = table.lowest (least - 1) ∧
      ∃ scope later, table.lowest least = scope :: table.lowest (least - 1) ∧
        last.lowest least = later :: last.lowest (least - 1) ∧ scope.GrowsTo later := by
  have hbefore : least ≤ table.depth := hleast table (mem_moments_self table segment)
  have hafter : least ≤ last.depth := hleast last (last_mem_moments hrun)
  obtain ⟨scope, outer, hscope⟩ := exists_lowest_eq_cons hpositive hbefore
  obtain ⟨later, hlater, hgrown⟩ :=
    grows_of_run hrun hscope (inside?_of_le_depth hrun hreset hleast)
  rw [lowest_pred hpositive hbefore hscope, lowest_pred hpositive hafter hlater]
  exact ⟨rfl, scope, later, hscope, hlater, hgrown⟩

/-! ### Opening, working and closing -/

/-- A run that opens a scope, works in it and closes a scope, taken apart. -/
theorem of_run_block {table last : Table σ} {block : List Operation} {events : List Event}
    {level : Nat} {responses : List Response} {response : Response}
    (hrun : table.run (.openScope :: (block ++ [.closeScope])) =
      .done events (.opened level :: (responses ++ [response]), last)) :
    level = table.nextLevel ∧ ∃ reported middle closing,
      table.opened.run block = .done reported (responses, middle) ∧
        Effect middle .closeScope closing response last := by
  obtain ⟨_, first, opened, _, _, hopen, hrest, -, hresponses⟩ := of_run_cons_eq_done hrun
  rw [List.cons.injEq] at hresponses
  obtain ⟨rfl, rfl⟩ := hresponses
  cases hopen
  obtain ⟨reported, answers, middle, _, _, hblock, hclose, -, hresponses⟩ :=
    of_run_append_eq_done hrest
  obtain ⟨closing, answer, closed, _, _, hclosed, hnil, -, rfl⟩ := of_run_cons_eq_done hclose
  cases hnil
  obtain ⟨rfl, hanswer⟩ := List.append_inj' hresponses rfl
  cases hanswer
  exact ⟨rfl, reported, middle, closing, hblock, hclosed⟩

/-- **A scope that is opened, worked in and closed again leaves the stack as it was.**  The work in
    it may open and close scopes of its own, as long as it closes as many as it opens and never the
    given one. -/
theorem scopes_of_block {table last : Table σ} {block : List Operation} {events : List Event}
    {level : Nat} {responses : List Response} {response : Response}
    (hrun : table.run (.openScope :: (block ++ [.closeScope])) =
      .done events (.opened level :: (responses ++ [response]), last))
    (hinside : inside? 0 responses = some 0) :
    response = .closed level ∧ last.scopes = table.scopes := by
  obtain ⟨rfl, reported, middle, closing, hblock, hclosed⟩ := of_run_block hrun
  have hinnermost : table.opened.scopes.drop 0 = _ :: table.scopes := table.scopes_opened
  obtain ⟨later, hlater, hgrown⟩ := grows_of_run hblock hinnermost hinside
  -- The scope is innermost again, so it is the one that gets closed.
  rw [List.drop_zero] at hlater
  cases hclosed with
  | nothingToClose hscopes => simp [hscopes] at hlater
  | closed hscopes =>
    rw [hscopes, List.cons.injEq] at hlater
    obtain ⟨rfl, rfl⟩ := hlater
    exact ⟨congrArg Response.closed hgrown.level, rfl⟩

/-- **The frame of a run.**  A run without a reset changes no scope below its least depth, and the
    scope at that depth only grows.  In particular a scope opened, worked in and closed again leaves
    all that can be seen of the table as it was, the next level apart. -/
theorem run_frame (table : Table σ) :
    (∀ (segment : List Operation) (events : List Event) (responses : List Response)
        (last : Table σ) (least : Nat),
      table.run segment = .done events (responses, last) → .reset ∉ segment →
      ((table.moments segment).map depth).min? = some least → 1 ≤ least →
      last.lowest (least - 1) = table.lowest (least - 1) ∧
        ∃ scope later, table.lowest least = scope :: table.lowest (least - 1) ∧
          last.lowest least = later :: last.lowest (least - 1) ∧ scope.GrowsTo later) ∧
    (∀ (block : List Operation) (events : List Event) (level : Nat) (responses : List Response)
        (response : Response) (last : Table σ),
      table.run (.openScope :: (block ++ [.closeScope])) =
        .done events (.opened level :: (responses ++ [response]), last) →
      .reset ∉ block → inside? 0 responses = some 0 →
      response = .closed level ∧ last.scopes = table.scopes ∧
        last.nextLevel = table.nextLevel + 1 + block.count .openScope ∧
        last.initialCapacity = table.initialCapacity ∧ last.dump = table.dump ∧
        ∀ name, last.lookup name = table.lookup name ∧
          last.lookupCurrent name = table.lookupCurrent name ∧
          last.resolve name = table.resolve name) := by
  constructor
  · intro segment events responses last least hrun hreset hmin hpositive
    refine lowest_of_run hrun hreset hpositive fun moment hmoment => ?_
    exact (List.min?_eq_some_iff.mp hmin).2 _ (List.mem_map_of_mem hmoment)
  · intro block events level responses response last hrun hreset hinside
    obtain ⟨hresponse, hscopes⟩ := scopes_of_block hrun hinside
    have hlevel := nextLevel_of_run hrun (by simp [hreset])
    refine ⟨hresponse, hscopes, ?_, initialCapacity_of_run hrun, dump_congr hscopes,
      fun name => ?_⟩
    · rw [hlevel, List.count_cons_self, List.count_append]
      show _ + (block.count .openScope + 0 + 1) = _
      omega
    · have hlookup : last.lookup name = table.lookup name := by rw [lookup, hscopes, lookup]
      refine ⟨hlookup, ?_, ?_⟩
      · rw [lookupCurrent, current?, hscopes, lookupCurrent, current?]
      · rw [resolve, hlookup, resolve]

/-- A root with one entry: first an inner scope comes and goes, a name is refused, and the root has
    to grow; then a scope is opened, another one comes and goes in it, and it is closed. -/
theorem run_frame_of_root :
    let table : Table Heap :=
      { scopes := [⟨0, none, 1, [⟨"g", .int, 0⟩]⟩], nextLevel := 1, initialCapacity := 1
        allocator := {} }
    let segment : List Operation :=
      [.openScope, .insert "g" .char, .closeScope, .insert "g" .char, .insert "h" .float]
    let block : List Operation :=
      [.insert "g" .char, .openScope, .insert "g" .void, .closeScope, .insert "g" .float]
    (∃ events responses last, table.run segment = .done events (responses, last) ∧
      .reset ∉ segment ∧ ((table.moments segment).map depth).min? = some 1 ∧
      last.lowest 0 = table.lowest 0 ∧
        ∃ scope later, table.lowest 1 = scope :: table.lowest 0 ∧
          last.lowest 1 = later :: last.lowest 0 ∧ scope.GrowsTo later) ∧
    ∃ events responses response last,
      table.run (.openScope :: (block ++ [.closeScope])) =
        .done events (.opened 1 :: (responses ++ [response]), last) ∧
      .reset ∉ block ∧ inside? 0 responses = some 0 ∧
      response = .closed 1 ∧ last.scopes = table.scopes ∧ last.nextLevel = 3 := by
  intro table segment block
  have hsegment : table.run segment = .done _ (_, _) := rfl
  have hblock : table.run (.openScope :: (block ++ [.closeScope])) =
      .done _ (.opened 1 :: ([_, .opened 2, _, .closed 2, _] ++ [_]), _) := rfl
  refine ⟨⟨_, _, _, hsegment, by decide, rfl, ?_⟩, _, _, _, _, hblock, by decide, rfl, ?_⟩
  · exact (run_frame table).1 _ _ _ _ 1 hsegment (by decide) rfl (Nat.le_refl 1)
  · obtain ⟨hresponse, hscopes, hlevel, -⟩ :=
      (run_frame table).2 _ _ _ _ _ _ hblock (by decide) rfl
    exact ⟨hresponse, hscopes, hlevel⟩

end Table

end Frontend
