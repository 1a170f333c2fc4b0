import Frontend.Proofs.Table.Runs

namespace Frontend

/-!
# Entries and slots

No scope ever holds more entries than it has slots, and no scope has more slots than can be
reserved.

* `Scope.Fits` — both of these, for one scope;
* `Scope.Fits.isFull_iff`, `Scope.Fits.doubled` — so a scope is full with its last slot taken, and
  what it then asks for is never cut off at the largest count;
* `Scope.Room` — every way of making room for one more entry, one constructor for each;
* `Table.fits_of_reachedBy` — every scope of a reachable table is one of these.
-/

namespace Scope

/-- A scope whose entries have a slot each, and whose slots can be reserved. -/
structure Fits (scope : Scope) : Prop where
  count_le : scope.count ≤ scope.capacity
  capacity_lt : scope.capacity < slotLimit

/-- What a scope asks for when it is full: twice its slots, or one if it has none. -/
def growth (scope : Scope) : Request := .growth scope.capacity (max 1 (2 * scope.capacity))

/-- The scope with the slots it asks for. -/
def grown (scope : Scope) : Scope := { scope with capacity := max 1 (2 * scope.capacity) }

theorem fits_fresh {capacity : Nat} (h : capacity < slotLimit) (level : Nat)
    (enclosing : Option Nat) : (fresh level enclosing capacity).Fits where
  count_le := Nat.zero_le _
  capacity_lt := h

namespace Fits

variable {scope : Scope}

/-- A scope is full once all its slots are taken. -/
theorem isFull_iff (h : scope.Fits) : scope.isFull = true ↔ scope.count = scope.capacity := by
  rw [isFull, decide_eq_true_eq]
  have := h.count_le
  omega

theorem isFull_eq_false (h : scope.Fits) (hfree : scope.count ≠ scope.capacity) :
    scope.isFull = false := by
  rw [← Bool.not_eq_true, h.isFull_iff]
  exact hfree

/-- What a full scope asks for is far below the largest count. -/
theorem doubled (h : scope.Fits) : scope.doubled = max 1 (2 * scope.capacity) := by
  have hlimit := h.capacity_lt
  simp only [slotLimit] at hlimit
  simp only [Scope.doubled, Text.wordMax]
  omega

end Fits

variable {σ : Type} [Allocator σ]

/-- Every way of making room for one more entry: what comes of the scope, and of the allocator.
    More slots are asked for only if all are taken, and can be denied by the allocator or by what
    can be reserved. -/
inductive Room (scope : Scope) (before : σ) : Option Scope → σ → Prop
  | free (hfree : scope.count ≠ scope.capacity) : Room scope before (some scope) before
  | grown {after : σ} (hfull : scope.count = scope.capacity)
      (hanswer : Allocator.answer before scope.growth = (.granted, after))
      (hreserved : scope.grown.capacity < slotLimit) : Room scope before (some scope.grown) after
  | refused {after : σ} {reply : Reply} (hfull : scope.count = scope.capacity)
      (hanswer : Allocator.answer before scope.growth = (reply, after))
      (hrefused : ¬ (reply = .granted ∧ scope.grown.capacity < slotLimit)) :
      Room scope before none after

variable {scope : Scope} {before after : σ}

/-- There is no other way. -/
theorem exists_room (scope : Scope) (before : σ) : ∃ room after, scope.Room before room after := by
  by_cases hfull : scope.count = scope.capacity
  · rcases hanswer : Allocator.answer before scope.growth with ⟨reply, after⟩
    by_cases hgranted : reply = .granted ∧ scope.grown.capacity < slotLimit
    · obtain ⟨rfl, hreserved⟩ := hgranted
      exact ⟨_, _, .grown hfull hanswer hreserved⟩
    · exact ⟨_, _, .refused hfull hanswer hgranted⟩
  · exact ⟨_, _, .free hfull⟩

/-- In a scope that fits, room is made as it should be. -/
theorem Fits.makeRoom_eq (h : scope.Fits) {room : Option Scope}
    (hroom : scope.Room before room after) : scope.makeRoom before = (room, after) := by
  cases hroom with
  | free hfree => simp [makeRoom, h.isFull_eq_false hfree]
  | grown hfull hanswer hreserved =>
    -- The allocator is asked in terms of `doubled`, which here is what `growth` says.
    rw [growth, ← h.doubled] at hanswer
    rw [grown, ← h.doubled] at hreserved ⊢
    simp [makeRoom, h.isFull_iff.mpr hfull, hanswer, hreserved]
  | refused hfull hanswer hrefused =>
    rw [growth, ← h.doubled] at hanswer
    rw [grown, ← h.doubled, ← Reply.isGranted_iff] at hrefused
    simp [makeRoom, h.isFull_iff.mpr hfull, hanswer, hrefused]

/-- So what comes of making room comes of it in one of these ways. -/
theorem Fits.makeRoom_eq_iff (h : scope.Fits) {room : Option Scope} :
    scope.makeRoom before = (room, after) ↔ scope.Room before room after := by
  refine ⟨fun hroom => ?_, h.makeRoom_eq⟩
  obtain ⟨room', after', hmade⟩ := scope.exists_room before
  rw [h.makeRoom_eq hmade, Prod.mk.injEq] at hroom
  obtain ⟨rfl, rfl⟩ := hroom
  exact hmade

/-- Room that was made is room for one more entry. -/
theorem Fits.add {roomy : Scope} (h : scope.Fits)
    (hroom : scope.makeRoom before = (some roomy, after)) (entry : Entry) :
    (roomy.add entry).Fits := by
  have hcount := h.count_le
  cases h.makeRoom_eq_iff.mp hroom with
  | free hfree =>
    refine ⟨?_, h.capacity_lt⟩
    rw [count_add]
    show scope.count + 1 ≤ scope.capacity
    omega
  | grown hfull hanswer hreserved =>
    -- All slots were taken, and there is at least one more now.
    refine ⟨?_, hreserved⟩
    rw [count_add]
    show scope.count + 1 ≤ max 1 (2 * scope.capacity)
    omega

end Scope

namespace Table

variable {σ : Type}

/-- Whether every open scope has a slot for each of its entries. -/
def Fits (table : Table σ) : Prop := ∀ scope ∈ table.scopes, scope.Fits

theorem Fits.current {table : Table σ} (h : table.Fits) {scope : Scope} {outer : List Scope}
    (hscopes : table.scopes = scope :: outer) : scope.Fits :=
  h scope (hscopes ▸ List.mem_cons_self)

theorem fits_blank (capacity : Nat) (allocator : σ) : (blank capacity allocator).Fits :=
  List.forall_mem_nil _

variable [Allocator σ]

theorem Fits.opened {table : Table σ} (h : table.Fits) (hcan : table.CanOpen) :
    table.opened.Fits :=
  List.forall_mem_cons.mpr ⟨Scope.fits_fresh hcan.2.2 _ _, h⟩

/-- No operation takes a slot that is not there. -/
theorem Effect.fits {table next : Table σ} {operation : Operation} {events : List Event}
    {response : Response} (heffect : Effect table operation events response next)
    (h : table.Fits) : next.Fits := by
  unfold Fits at h
  cases heffect with
  | opened hcan => exact Fits.opened h hcan
  | nothingToClose | nowhereToInsert | redeclared | growthRefused => exact h
  | closed hscopes =>
    rw [hscopes, List.forall_mem_cons] at h
    exact h.2
  | inserted hscopes hnew hroom hentry =>
    rw [hscopes, List.forall_mem_cons] at h
    exact List.forall_mem_cons.mpr ⟨h.1.add hroom _, h.2⟩
  | restarted hcan => exact (fits_blank _ _).opened hcan

/-- **In every reachable table, every entry has its slot.** -/
theorem fits_of_reachedBy {table : Table σ} {history : List Operation}
    (h : table.ReachedBy history) : table.Fits :=
  invariant_of_reachedBy (fun hcan => (fits_blank _ _).opened hcan) Effect.fits h

end Table

end Frontend
