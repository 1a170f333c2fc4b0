import Frontend.Proofs.Table.Capacity
import Frontend.Proofs.Table.Levels
import Frontend.Proofs.Table.Steady

namespace Frontend

/-!
# Tables under a ceiling

A table whose scopes all start below the ceiling that its allocator puts on them.  Such a table is
never denied what it cannot do without, so only a want of levels is fatal to it.

* `Table.UnderCeiling` — the tables of this kind;
* `Table.Effect.underCeiling` — every operation keeps a table one of them;
* `Table.UnderCeiling.exists_effect` — every operation on one comes to its end, unless it opens a
  scope and there is no level left;
* `Table.UnderCeiling.of_apply_eq_aborted` — so nothing else is fatal.
-/

theorem Reply.within_eq_granted_iff {limit slots : Nat} :
    within limit slots = .granted ↔ slots ≤ limit := by
  rw [← isGranted_iff, isGranted_within, decide_eq_true_eq]

/-- Under a ceiling, a scope grows no further than the ceiling. -/
theorem Scope.Room.capacity_le {scope roomy : Scope} {before after : Capped}
    (hroom : scope.Room before (some roomy) after) (h : scope.capacity ≤ before.maxSlots) :
    roomy.capacity ≤ before.maxSlots := by
  cases hroom with
  | free hfree => exact h
  | grown hfull hanswer hreserved =>
    rw [answer_capped, Prod.mk.injEq] at hanswer
    exact Reply.within_eq_granted_iff.mp hanswer.1

namespace Table

/-- A table under a ceiling: its allocator grants a scope up to `ceiling` slots and refuses only
    more, and its scopes start with no more than that, of which there are enough to be had.  So no
    open scope has more, either. -/
structure UnderCeiling (table : Table Capped) (ceiling : Nat) : Prop where
  allocator_eq : table.allocator = Capped.mk ceiling
  initial_le : table.initialCapacity ≤ ceiling
  initial_lt : table.initialCapacity < Scope.slotLimit
  fits : table.Fits
  capacity_le : ∀ scope ∈ table.scopes, scope.capacity ≤ ceiling

variable {table next : Table Capped} {ceiling capacity : Nat} {operation : Operation}
  {events : List Event} {response : Response}

/-! ### What keeps a table under its ceiling -/

theorem underCeiling_blank (hle : capacity ≤ ceiling) (hlt : capacity < Scope.slotLimit) :
    (blank capacity (Capped.mk ceiling)).UnderCeiling ceiling where
  allocator_eq := rfl
  initial_le := hle
  initial_lt := hlt
  fits := fits_blank _ _
  capacity_le := List.forall_mem_nil _

/-- While there is a level for it, a scope can be opened. -/
theorem UnderCeiling.canOpen (h : table.UnderCeiling ceiling)
    (hlevel : table.nextLevel < levelLimit) : table.CanOpen := by
  refine ⟨hlevel, ?_, h.initial_lt⟩
  rw [h.allocator_eq, answer_capped]
  exact Reply.within_eq_granted_iff.mpr h.initial_le

/-- The table it was made of, with no scope open yet, is under the ceiling, too. -/
theorem UnderCeiling.blank (h : table.UnderCeiling ceiling) :
    (blank table.initialCapacity table.allocator).UnderCeiling ceiling := by
  rw [h.allocator_eq]
  exact underCeiling_blank h.initial_le h.initial_lt

theorem UnderCeiling.opened (h : table.UnderCeiling ceiling) (hcan : table.CanOpen) :
    table.opened.UnderCeiling ceiling :=
  { h with
    fits := h.fits.opened hcan
    capacity_le := List.forall_mem_cons.mpr ⟨h.initial_le, h.capacity_le⟩ }

/-- **Every operation keeps a table under its ceiling.** -/
theorem Effect.underCeiling (heffect : Effect table operation events response next)
    (h : table.UnderCeiling ceiling) : next.UnderCeiling ceiling := by
  have hscopes : ∀ scope ∈ next.scopes, scope.capacity ≤ ceiling := by
    have hbefore := h.capacity_le
    cases heffect with
    | opened hcan => exact (h.opened hcan).capacity_le
    | nothingToClose | nowhereToInsert | redeclared | growthRefused => exact hbefore
    | closed hscopes =>
      rw [hscopes, List.forall_mem_cons] at hbefore
      exact hbefore.2
    | inserted hscopes hnew hroom hentry =>
      have hmade := (h.fits.current hscopes).makeRoom_eq_iff.mp hroom
      rw [h.allocator_eq] at hmade
      rw [hscopes, List.forall_mem_cons] at hbefore
      exact List.forall_mem_cons.mpr ⟨hmade.capacity_le hbefore.1, hbefore.2⟩
    | restarted hcan => exact (h.blank.opened hcan).capacity_le
  exact {
    allocator_eq := heffect.allocator_eq.trans h.allocator_eq
    initial_le := heffect.initialCapacity.trans_le h.initial_le
    initial_lt := heffect.initialCapacity.trans_lt h.initial_lt
    fits := heffect.fits h.fits
    capacity_le := hscopes }

/-! ### What is fatal to it -/

/-- **Every operation comes to its end**, unless it opens a scope and no level is left for that. -/
theorem UnderCeiling.exists_effect (h : table.UnderCeiling ceiling)
    (hlevel : operation = .openScope → table.nextLevel < levelLimit) :
    ∃ events response next, Effect table operation events response next := by
  cases operation with
  | openScope => exact ⟨_, _, _, .opened (h.canOpen (hlevel rfl))⟩
  | closeScope =>
    cases hscopes : table.scopes with
    | nil => exact ⟨_, _, _, .nothingToClose hscopes⟩
    | cons scope outer => exact ⟨_, _, _, .closed hscopes⟩
  | reset =>
    have hlevels : 0 < levelLimit := by decide
    exact ⟨_, _, _, .restarted (h.blank.canOpen hlevels)⟩
  | insert name type =>
    cases hscopes : table.scopes with
    | nil => exact ⟨_, _, _, .nowhereToInsert hscopes⟩
    | cons scope outer =>
      by_cases hnew : scope.lookup name = none
      · obtain ⟨room, after, hmade⟩ := scope.exists_room table.allocator
        have hroom := (h.fits.current hscopes).makeRoom_eq hmade
        cases room with
        | none => exact ⟨_, _, _, .growthRefused hscopes hnew hroom⟩
        | some roomy =>
          -- A ceiling is no reason to refuse an entry.
          have hentry : Allocator.answer after (.entry name.utf8ByteSize) = (.granted, after) := rfl
          exact ⟨_, _, _, .inserted hscopes hnew hroom hentry⟩
      · exact ⟨_, _, _, .redeclared hscopes hnew⟩

/-- So only a want of levels is fatal. -/
theorem UnderCeiling.of_apply_eq_aborted (h : table.UnderCeiling ceiling) {cause : Fatal}
    (habort : table.apply operation = .aborted events cause) :
    operation = .openScope ∧ levelLimit ≤ table.nextLevel ∧ cause = .levelsExhausted := by
  by_cases hlevel : operation = .openScope → table.nextLevel < levelLimit
  · obtain ⟨reported, response, next, heffect⟩ := h.exists_effect hlevel
    rw [apply_eq_done_iff.mpr heffect] at habort
    cases habort
  · rw [Classical.not_imp] at hlevel
    obtain ⟨rfl, hexhausted⟩ := hlevel
    rw [apply, openScope, if_neg hexhausted] at habort
    cases habort
    exact ⟨rfl, Nat.not_lt.mp hexhausted, rfl⟩

/-- There is always a level that comes next, but it may be none that can be handed out. -/
theorem Effect.nextLevel_le {σ : Type} [Allocator σ] {table next : Table σ}
    (heffect : Effect table operation events response next) (h : table.nextLevel ≤ levelLimit) :
    next.nextLevel ≤ levelLimit := by
  cases heffect with
  | opened hcan => exact hcan.1
  | restarted hcan => exact hcan.1
  | nothingToClose | closed | nowhereToInsert | redeclared | growthRefused | inserted => exact h

end Table

end Frontend
