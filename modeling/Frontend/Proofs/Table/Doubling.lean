import Frontend.Allocator.Rationed
import Frontend.Proofs.Table.Capacity
import Mathlib.Algebra.Group.Nat.Defs
import Mathlib.Order.Bounds.Defs

namespace Frontend

/-!
# Slots by doubling

A scope grows by doubling and grows only when it is full, so how many slots it has can be told from
the entries it holds and from the slots it started with, whatever was refused meanwhile.

* `SlotsFor` — what doubling makes of the first slots to hold some number of entries;
* `SlotsFor.succ_of_lt`, `SlotsFor.succ_of_eq` — one more entry, with a slot free and without;
* `Scope.Fits.add_slotsFor` — making room for an entry is one of these two;
* `Table.capacity_of_run` — so every scope of a reachable table has just the slots that its entries
  call for, and all arithmetic on slots stays within the counts.
-/

/-! ### What doubling comes to -/

/-- What doubling makes of `initial` slots for `count` entries.  They stay as they are while they
    are enough.  Where they are not, they are doubled no more often than it takes, and where there
    were none, one slot stands in for them. -/
def SlotsFor (initial count slots : Nat) : Prop :=
  (count ≤ initial → slots = initial) ∧
    (initial < count → ∃ times, IsLeast {k | count ≤ max 1 initial * 2 ^ k} times ∧
      slots = max 1 initial * 2 ^ times)

/-- Slots that are all taken have to be doubled once more for one more entry. -/
theorem isLeast_doublings_succ {slots : Nat} (hslots : 1 ≤ slots) (times : Nat) :
    IsLeast {k | slots * 2 ^ times + 1 ≤ slots * 2 ^ k} (times + 1) := by
  have hpositive : 1 ≤ slots * 2 ^ times := Nat.mul_pos hslots (Nat.two_pow_pos times)
  constructor
  · show slots * 2 ^ times + 1 ≤ slots * 2 ^ (times + 1)
    rw [Nat.pow_succ, ← Nat.mul_assoc]
    omega
  · intro k hk
    refine Nat.not_lt.mp fun hless => ?_
    have hpow : 2 ^ k ≤ 2 ^ times := Nat.pow_le_pow_right (by decide) (by omega)
    have hfewer : slots * 2 ^ k ≤ slots * 2 ^ times := Nat.mul_le_mul_left slots hpow
    have hmore : slots * 2 ^ times + 1 ≤ slots * 2 ^ k := hk
    omega

namespace SlotsFor

variable {initial count slots : Nat}

/-- Without an entry there are the first slots. -/
theorem zero (initial : Nat) : SlotsFor initial 0 initial :=
  ⟨fun _ => rfl, fun hless => absurd hless (Nat.not_lt_zero initial)⟩

/-- While a slot is free, one more entry changes nothing. -/
theorem succ_of_lt (h : SlotsFor initial count slots) (hfree : count < slots) :
    SlotsFor initial (count + 1) slots := by
  constructor
  · intro henough
    exact h.1 (by omega)
  · intro hmore
    have hdoubled : initial < count := by
      refine Nat.not_le.mp fun henough => ?_
      have hsame : slots = initial := h.1 henough
      omega
    obtain ⟨times, ⟨-, hleast⟩, rfl⟩ := h.2 hdoubled
    refine ⟨times, ⟨hfree, fun k hk => hleast ?_⟩, rfl⟩
    exact Nat.le_of_succ_le hk

/-- The slots of a full scope are some doubling, unless there were none at all. -/
theorem exists_times (h : SlotsFor initial count count) (hcount : 1 ≤ count) :
    initial ≤ count ∧ ∃ times, count = max 1 initial * 2 ^ times := by
  rcases Nat.lt_trichotomy count initial with hless | hsame | hmore
  · have := h.1 (Nat.le_of_lt hless)
    omega
  · refine ⟨by omega, 0, ?_⟩
    rw [Nat.pow_zero, Nat.mul_one]
    omega
  · obtain ⟨times, -, htimes⟩ := h.2 hmore
    exact ⟨Nat.le_of_lt hmore, times, htimes⟩

/-- With all slots taken, one more entry takes one more doubling. -/
theorem succ_of_eq (h : SlotsFor initial count count) :
    SlotsFor initial (count + 1) (max 1 (2 * count)) := by
  rcases Nat.eq_zero_or_pos count with rfl | hcount
  · -- There are no slots, and none to start with: the one slot is not a doubling of anything.
    have hnone : initial = 0 := (h.1 (Nat.zero_le initial)).symm
    subst hnone
    have hone : 0 + 1 ≤ max 1 0 * 2 ^ 0 := by decide
    exact ⟨fun henough => by omega, fun _ => ⟨0, ⟨hone, fun k _ => Nat.zero_le k⟩, rfl⟩⟩
  · obtain ⟨hinitial, times, htimes⟩ := h.exists_times hcount
    refine ⟨fun henough => by omega, fun _ => ⟨times + 1, ?_, ?_⟩⟩
    · rw [htimes]
      exact isLeast_doublings_succ (Nat.le_max_left 1 initial) times
    · rw [Nat.pow_succ, ← Nat.mul_assoc, ← htimes]
      omega

end SlotsFor

/-! ### Scopes -/

/-- In a scope that fits, room is made for an entry by as much doubling as it takes. -/
theorem Scope.Fits.add_slotsFor {σ : Type} [Allocator σ] {scope roomy : Scope} {before after : σ}
    {initial : Nat} (hfits : scope.Fits) (hslots : SlotsFor initial scope.count scope.capacity)
    (hroom : scope.makeRoom before = (some roomy, after)) (entry : Entry) :
    SlotsFor initial (roomy.add entry).count (roomy.add entry).capacity := by
  rw [count_add]
  cases hfits.makeRoom_eq_iff.mp hroom with
  | free hfree =>
    have hcount := hfits.count_le
    exact hslots.succ_of_lt (by omega)
  | grown hfull hanswer hreserved =>
    rw [← hfull] at hslots
    show SlotsFor initial (scope.count + 1) (max 1 (2 * scope.capacity))
    rw [← hfull]
    exact hslots.succ_of_eq

/-! ### Tables -/

namespace Table

variable {σ : Type}

/-- Whether every open scope has just the slots that its entries call for. -/
def Doubles (table : Table σ) : Prop :=
  ∀ scope ∈ table.scopes, SlotsFor table.initialCapacity scope.count scope.capacity

theorem doubles_blank (capacity : Nat) (allocator : σ) : (blank capacity allocator).Doubles :=
  List.forall_mem_nil _

variable [Allocator σ]

theorem Doubles.opened {table : Table σ} (h : table.Doubles) : table.opened.Doubles :=
  List.forall_mem_cons.mpr ⟨.zero table.initialCapacity, h⟩

/-- An operation doubles the slots of a scope when it has to, and at no other time. -/
theorem Effect.doubles {table next : Table σ} {operation : Operation} {events : List Event}
    {response : Response} (heffect : Effect table operation events response next)
    (hfits : table.Fits) (h : table.Doubles) : next.Doubles := by
  unfold Doubles at h
  cases heffect with
  | opened hcan => exact Doubles.opened h
  | nothingToClose | nowhereToInsert | redeclared | growthRefused => exact h
  | closed hscopes =>
    rw [hscopes, List.forall_mem_cons] at h
    exact h.2
  | inserted hscopes hnew hroom hentry =>
    have hscope := hfits.current hscopes
    rw [hscopes, List.forall_mem_cons] at h
    exact List.forall_mem_cons.mpr ⟨hscope.add_slotsFor h.1 hroom _, h.2⟩
  | restarted hcan => exact (doubles_blank _ _).opened

/-- In every reachable table, slots come from doubling. -/
theorem doubles_of_reachedBy {table : Table σ} {history : List Operation}
    (h : table.ReachedBy history) : table.Doubles := by
  -- That room is made by doubling is known only of scopes that fit, so both are kept together.
  have hboth : table.Fits ∧ table.Doubles := by
    refine @invariant_of_reachedBy _ _ _ _ (fun table => table.Fits ∧ table.Doubles) ?_ ?_ h
    · intro capacity allocator hcan
      exact ⟨(fits_blank _ _).opened hcan, (doubles_blank _ _).opened⟩
    · intro table next operation reported response heffect hinv
      exact ⟨heffect.fits hinv.1, heffect.doubles hinv.1 hinv.2⟩
  exact hboth.2

/-- **The slots of a scope are told by its entries.**  After any history, on any allocator, an open
    scope has the slots it started with while these are enough for its entries, and otherwise these,
    or one slot where there were none, doubled the least number of times that makes them enough.  A
    growth that was refused has left no trace in them.

    No bound on the slots or the entries is needed: scopes of `Scope.slotLimit` slots or more are
    never opened, and nothing grows to as many.  So no scope holds more entries than it has slots;
    what a full scope asks for is never cut off at the largest count, and is more than it holds. -/
theorem capacity_of_run {capacity : Nat} {allocator : σ} {created events : List Event}
    {start table : Table σ} {history : List Operation} {responses : List Response}
    (hcreate : create capacity allocator = .done created start)
    (hrun : start.run history = .done events (responses, table)) :
    ∀ scope ∈ table.scopes,
      (scope.count ≤ capacity → scope.capacity = capacity) ∧
        (capacity < scope.count →
          ∃ times, IsLeast {k | scope.count ≤ max 1 capacity * 2 ^ k} times ∧
            scope.capacity = max 1 capacity * 2 ^ times) ∧
        scope.count ≤ scope.capacity ∧
        2 * scope.capacity ≤ Text.wordMax ∧ scope.doubled = max 1 (2 * scope.capacity) ∧
        scope.count < scope.doubled := by
  intro scope hscope
  have hreached : table.ReachedBy history :=
    ⟨capacity, allocator, start, responses, created, events, hcreate, hrun⟩
  have hfits : scope.Fits := fits_of_reachedBy hreached scope hscope
  have hslots : SlotsFor capacity scope.count scope.capacity := by
    have hdoubles := doubles_of_reachedBy hreached scope hscope
    obtain ⟨-, -, rfl⟩ := create_eq_done_iff.mp hcreate
    rwa [initialCapacity_of_run hrun] at hdoubles
  have hcount := hfits.count_le
  have hlimit := hfits.capacity_lt
  simp only [Scope.slotLimit] at hlimit
  refine ⟨hslots.1, hslots.2, hcount, ?_, hfits.doubled, ?_⟩
  · simp only [Text.wordMax]
    omega
  · rw [hfits.doubled]
    omega

/-- Scopes that start without slots: the root has grown three times and was refused twice in
    between, and the scope in it was denied its first slot. -/
theorem capacity_of_run_refused_growth :
    let allocator : Rationed :=
      { maxSlots := 4, growths := [true, false, true, false, true, false] }
    let history : List Operation :=
      [.insert "a" .int, .insert "b" .int, .insert "b" .int, .insert "c" .int, .insert "c" .int,
        .openScope, .insert "d" .void]
    let root : Scope := ⟨0, none, 4, [⟨"a", .int, 0⟩, ⟨"b", .int, 0⟩, ⟨"c", .int, 0⟩]⟩
    let inner : Scope := ⟨1, some 0, 0, []⟩
    ∃ created events start table responses,
      create 0 allocator = .done created start ∧
        start.run history = .done events (responses, table) ∧ table.scopes = [inner, root] ∧
        inner.capacity = 0 ∧ (∃ times, IsLeast {k | 3 ≤ 1 * 2 ^ k} times ∧ 4 = 1 * 2 ^ times) ∧
        root.doubled = 8 := by
  intro allocator history root inner
  have hcreate : create 0 allocator = .done _ _ := rfl
  have hrun : (blank 0 allocator).opened.run history = .done _ (_, _) := rfl
  have hall := capacity_of_run hcreate hrun
  obtain ⟨hempty, -⟩ := hall inner List.mem_cons_self
  obtain ⟨-, hgrown, -, -, hnext, -⟩ := hall root (List.mem_cons_of_mem _ List.mem_cons_self)
  exact ⟨_, _, _, _, _, hcreate, hrun, rfl, hempty (Nat.le_refl 0), hgrown (by decide), hnext⟩

end Table

end Frontend
