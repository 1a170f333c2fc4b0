import Frontend.Proofs.Table.Runs

namespace Frontend

/-!
# Well-nested tables

What the stack of open scopes looks like in every table that can be reached.

* `Table.WellNested` — levels increase from the root inwards, every scope knows the one around it,
  every entry knows its scope, and no scope holds a name twice;
* `Table.WellNested.opened`, `.closed`, `.inserted` — the three ways a stack changes keep it;
* `Table.wellNested_of_reachedBy` — so every reachable table has it.
-/

namespace Table

variable {σ : Type}

/-- The scopes of a table are properly nested. -/
structure WellNested (table : Table σ) : Prop where
  /-- From the root to the innermost scope, levels strictly increase. -/
  increasing : table.scopes.Pairwise fun inner outer => outer.level < inner.level
  /-- The next level is beyond every level in use. -/
  below : ∀ scope ∈ table.scopes, scope.level < table.nextLevel
  /-- A scope's enclosing level is the level of the scope right outside it; the lowest scope, and
      no other, has none. -/
  enclosing : ∀ i scope, table.scopes[i]? = some scope →
    scope.enclosing = table.scopes[i + 1]?.map Scope.level
  /-- An entry carries the level of the scope that holds it. -/
  entries : ∀ scope ∈ table.scopes, ∀ entry ∈ scope.entries, entry.level = scope.level
  /-- No two entries of a scope share a name. -/
  names : ∀ scope ∈ table.scopes, (scope.entries.map Entry.name).Nodup

theorem wellNested_blank (capacity : Nat) (allocator : σ) :
    (blank capacity allocator).WellNested := by
  constructor <;> simp [blank]

namespace WellNested

/-- Only the scopes and the next level count. -/
theorem of_eq {table other : Table σ} (h : table.WellNested)
    (hscopes : other.scopes = table.scopes) (hlevel : other.nextLevel = table.nextLevel) :
    other.WellNested := by
  obtain ⟨increasing, below, enclosing, entries, names⟩ := h
  constructor <;> rw [hscopes] <;> first | assumption | rw [hlevel]; assumption

/-- A new scope is on the next level, and the level around it is that of the scope it is opened
    in. -/
theorem opened [Allocator σ] {table : Table σ} (h : table.WellNested) :
    table.opened.WellNested where
  increasing := List.pairwise_cons.mpr ⟨h.below, h.increasing⟩
  below := by
    refine List.forall_mem_cons.mpr ⟨Nat.lt_succ_self _, fun scope hmem => ?_⟩
    exact Nat.lt_succ_of_lt (h.below scope hmem)
  enclosing := by
    intro i scope hscope
    cases i with
    | zero =>
      -- The new scope was given the level that is current outside it.
      rw [scopes_opened, List.getElem?_cons_zero, Option.some.injEq] at hscope
      subst hscope
      rw [scopes_opened, List.getElem?_cons_succ, ← List.head?_eq_getElem?]
      rfl
    | succ i => exact h.enclosing i scope hscope
  entries := List.forall_mem_cons.mpr ⟨by simp [Scope.fresh], h.entries⟩
  names := List.forall_mem_cons.mpr ⟨by simp [Scope.fresh], h.names⟩

/-- Closing the innermost scope leaves the others as they were. -/
theorem closed {table : Table σ} {scope : Scope} {outer : List Scope} (h : table.WellNested)
    (hscopes : table.scopes = scope :: outer) :
    WellNested { table with scopes := outer } := by
  obtain ⟨increasing, below, enclosing, entries, names⟩ := h
  rw [hscopes] at increasing below enclosing entries names
  exact
    { increasing := (List.pairwise_cons.mp increasing).2
      below := (List.forall_mem_cons.mp below).2
      enclosing := fun i => enclosing (i + 1)
      entries := (List.forall_mem_cons.mp entries).2
      names := (List.forall_mem_cons.mp names).2 }

/-- The innermost scope may gain an entry with a new name, and any capacity. -/
theorem inserted {table : Table σ} {scope roomy : Scope} {outer : List Scope} {name : String}
    {type : DataType} (h : table.WellNested) (hscopes : table.scopes = scope :: outer)
    (hnew : scope.lookup name = none) (hlevel : roomy.level = scope.level)
    (henclosing : roomy.enclosing = scope.enclosing) (hentries : roomy.entries = scope.entries) :
    WellNested
      { table with scopes := roomy.add { name, type, level := scope.level } :: outer } := by
  -- Growing for room changes neither levels nor entries, so all clauses but the last two carry over.
  obtain ⟨increasing, below, enclosing, entries, names⟩ := h
  rw [hscopes] at increasing below enclosing entries names
  rw [List.pairwise_cons] at increasing
  rw [List.forall_mem_cons] at below entries names
  constructor
  · refine List.pairwise_cons.mpr ⟨fun other hmem => ?_, increasing.2⟩
    show other.level < roomy.level
    rw [hlevel]
    exact increasing.1 other hmem
  · refine List.forall_mem_cons.mpr ⟨?_, below.2⟩
    show roomy.level < table.nextLevel
    rw [hlevel]
    exact below.1
  · intro i other hother
    cases i with
    | zero =>
      rw [List.getElem?_cons_zero, Option.some.injEq] at hother
      subst hother
      exact henclosing.trans (enclosing 0 scope rfl)
    | succ i => exact enclosing (i + 1) other hother
  · refine List.forall_mem_cons.mpr ⟨fun entry hmem => ?_, entries.2⟩
    show entry.level = roomy.level
    rw [Scope.add, hentries, List.mem_append, List.mem_singleton] at hmem
    rw [hlevel]
    rcases hmem with hmem | rfl
    · exact entries.1 entry hmem
    · rfl
  · refine List.forall_mem_cons.mpr ⟨?_, names.2⟩
    -- The new name is none of the old ones, since it was looked up in vain.
    have hfresh : name ∉ scope.entries.map Entry.name := by
      intro hmem
      obtain ⟨entry, hentry, hname⟩ := List.mem_map.mp hmem
      exact Scope.lookup_eq_none_iff.mp hnew entry hentry hname
    rw [Scope.add, hentries, List.map_append, List.nodup_append]
    refine ⟨names.1, by simp, fun other hother added hadded => ?_⟩
    rw [List.map_singleton, List.mem_singleton] at hadded
    rw [hadded]
    rintro rfl
    exact hfresh hother

end WellNested

/-! ### Every reachable table -/

variable [Allocator σ]

/-- One operation keeps a table well nested, however it ends. -/
theorem Effect.wellNested {table next : Table σ} {operation : Operation} {events : List Event}
    {response : Response} (heffect : Effect table operation events response next)
    (h : table.WellNested) : next.WellNested := by
  cases heffect with
  | opened hcan => exact h.opened
  | nothingToClose | nowhereToInsert | redeclared => exact h
  | closed hscopes => exact h.closed hscopes
  | growthRefused hscopes hnew hroom => exact h.of_eq rfl rfl
  | inserted hscopes hnew hroom hentry =>
    obtain ⟨hlevel, henclosing, hentries, -⟩ := Scope.of_makeRoom_eq_some hroom
    exact (h.inserted hscopes hnew hlevel henclosing hentries).of_eq rfl rfl
  | restarted hcan => exact (wellNested_blank _ _).opened

/-- **Every reachable table is well nested**, whatever has been opened, closed, declared, refused
    or dropped before. -/
theorem wellNested_of_reachedBy {table : Table σ} {history : List Operation}
    (h : table.ReachedBy history) : table.WellNested :=
  invariant_of_reachedBy (fun _ => (wellNested_blank _ _).opened) Effect.wellNested h

/-- A table that has refused a redeclaration and a growth, lost its root, refused to close and to
    declare without one, and been reopened. -/
theorem wellNested_reopened :
    let history : List Operation :=
      [.insert "x" .int, .openScope, .insert "x" .float, .insert "x" .char, .insert "y" .int,
        .closeScope, .closeScope, .closeScope, .insert "y" .int, .openScope, .insert "z" .void,
        .openScope]
    let table : Table Capped :=
      { scopes := [⟨3, some 2, 1, []⟩, ⟨2, none, 1, [⟨"z", .void, 2⟩]⟩], nextLevel := 4
        initialCapacity := 1, allocator := ⟨1⟩ }
    table.ReachedBy history ∧ table.WellNested := by
  intro history table
  have hreached : table.ReachedBy history := ⟨1, ⟨1⟩, _, _, _, _, rfl, rfl⟩
  exact ⟨hreached, wellNested_of_reachedBy hreached⟩

end Table

end Frontend
