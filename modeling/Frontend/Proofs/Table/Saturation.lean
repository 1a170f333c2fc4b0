import Frontend.Proofs.Table.Ceiling
import Frontend.Proofs.Table.Doubling
import Frontend.Proofs.Table.Reordering
import Frontend.Proofs.Text.Fields
import Mathlib.Data.List.Nodup
import Mathlib.Data.Nat.Log
import Mathlib.Order.Bounds.Basic

namespace Frontend

/-!
# Scopes that are full for good

A ceiling lets a scope double only so often.  Once all the slots are taken that doubling can give
it, a scope is full for as long as it is open, whatever happens in the meantime.

* `MostSlots` — the most slots that doubling comes to within a limit;
* `MostSlots.le_of_slotsFor`, `MostSlots.double_le`, `MostSlots.lt_double` — slots got by doubling
  are no more than these, can be doubled while they are fewer, and cannot be once they are as many;
* `Table.LimitedTo` — the tables under a ceiling whose scopes have so many slots at most;
* `Table.LimitedTo.isDenied_iff` — in one of these, a scope is denied more slots exactly if it has
  as many entries;
* `Table.LimitedTo.exists_run_filling` — until then it takes any names that are new to it;
* `Table.LimitedTo.full_of_run` — and then nothing becomes of it any more;
* `Table.insert_under_ceiling` — what this means for insertions in a reachable table;
* `Table.insert_beyond_slotLimit` — where the ceiling alone does not tell how many names fit.
-/

/-! ### The most slots -/

/-- The most slots within `limit` that come of doubling `initial` slots, or one slot where there
    were none.  Within no slots at all these are none. -/
def MostSlots (initial limit most : Nat) : Prop :=
  if limit = 0 then most = 0
  else IsGreatest {slots | slots ≤ limit ∧ ∃ times, slots = max 1 initial * 2 ^ times} most

/-- Slots made by doubling are some number of doublings, if there are any. -/
theorem SlotsFor.eq_zero_or {initial count slots : Nat} (h : SlotsFor initial count slots) :
    slots = 0 ∨ ∃ times, slots = max 1 initial * 2 ^ times := by
  by_cases henough : count ≤ initial
  · have hsame : slots = initial := h.1 henough
    by_cases hnone : initial = 0
    · exact .inl (hsame.trans hnone)
    · refine .inr ⟨0, ?_⟩
      rw [Nat.pow_zero, Nat.mul_one]
      omega
  · obtain ⟨times, -, htimes⟩ := h.2 (Nat.lt_of_not_le henough)
    exact .inr ⟨times, htimes⟩

namespace MostSlots

variable {initial limit most : Nat}

/-- Doublings within the limit are the most if one more leaves it. -/
theorem of_between (times : Nat) (hle : max 1 initial * 2 ^ times ≤ limit)
    (hlt : limit < max 1 initial * 2 ^ (times + 1)) :
    MostSlots initial limit (max 1 initial * 2 ^ times) := by
  have hpositive : 1 ≤ max 1 initial * 2 ^ times :=
    Nat.mul_pos (Nat.le_max_left 1 initial) (Nat.two_pow_pos times)
  have hlimit : limit ≠ 0 := by omega
  rw [MostSlots, if_neg hlimit]
  refine ⟨⟨hle, times, rfl⟩, ?_⟩
  rintro _ ⟨hwithin, other, rfl⟩
  refine Nat.mul_le_mul_left _ (Nat.pow_le_pow_right (by decide) ?_)
  -- As many doublings as leave the limit would be too many.
  refine Nat.not_lt.mp fun hmore => ?_
  have hpow : 2 ^ (times + 1) ≤ 2 ^ other := Nat.pow_le_pow_right (by decide) hmore
  have hless := Nat.mul_le_mul_left (max 1 initial) hpow
  omega

/-- If twice the first slots are beyond the limit, these are the most. -/
theorem of_lt_double (hle : initial ≤ limit) (hlt : limit < 2 * initial) :
    MostSlots initial limit initial := by
  have hself : max 1 initial * 2 ^ 0 = initial := by
    rw [Nat.pow_zero, Nat.mul_one]
    omega
  have hdouble : max 1 initial * 2 ^ (0 + 1) = 2 * initial := by
    rw [Nat.pow_succ, ← Nat.mul_assoc, hself, Nat.mul_comm]
  have hmost : MostSlots initial limit (max 1 initial * 2 ^ 0) :=
    of_between 0 (hself.trans_le hle) (hlt.trans_eq hdouble.symm)
  rwa [hself] at hmost

/-- If the limit is twice the first slots, it is the most. -/
theorem of_eq_double (hpositive : 0 < initial) (hlimit : limit = 2 * initial) :
    MostSlots initial limit limit := by
  have hdouble : max 1 initial * 2 ^ 1 = limit := by
    rw [Nat.pow_one, hlimit]
    omega
  have hmore : limit < max 1 initial * 2 ^ (1 + 1) := by
    rw [Nat.pow_succ, ← Nat.mul_assoc, hdouble]
    omega
  have hmost : MostSlots initial limit (max 1 initial * 2 ^ 1) := of_between 1 hdouble.le hmore
  rwa [hdouble] at hmost

/-- There is such a number wherever the first slots are within the limit. -/
theorem exists_of_le (h : initial ≤ limit) : ∃ most, MostSlots initial limit most := by
  by_cases hlimit : limit = 0
  · exact ⟨0, by rw [MostSlots, if_pos hlimit]⟩
  · have hfirst : 0 < max 1 initial := Nat.lt_of_lt_of_le Nat.zero_lt_one (Nat.le_max_left 1 _)
    have hquotient : limit / max 1 initial ≠ 0 := by
      have hone : max 1 initial ≤ limit := by omega
      have hpositive := Nat.div_pos hone hfirst
      omega
    refine ⟨_, of_between (Nat.log 2 (limit / max 1 initial)) ?_ ?_⟩
    · rw [Nat.mul_comm, ← Nat.le_div_iff_mul_le hfirst]
      exact Nat.pow_log_le_self 2 hquotient
    · rw [Nat.mul_comm, ← Nat.div_lt_iff_lt_mul hfirst]
      exact Nat.lt_pow_succ_log_self (by decide) _

theorem unique {other : Nat} (h : MostSlots initial limit most)
    (h' : MostSlots initial limit other) : most = other := by
  unfold MostSlots at h h'
  split at h
  · rw [if_pos ‹limit = 0›] at h'
    rw [h, h']
  · rw [if_neg ‹limit ≠ 0›] at h'
    exact h.unique h'

theorem le_limit (h : MostSlots initial limit most) : most ≤ limit := by
  unfold MostSlots at h
  split at h
  · omega
  · exact h.1.1

/-- Slots made by doubling are no more than the most within the limit, if they are within it. -/
theorem le_of_slotsFor {count slots : Nat} (h : MostSlots initial limit most)
    (hslots : SlotsFor initial count slots) (hwithin : slots ≤ limit) : slots ≤ most := by
  rcases hslots.eq_zero_or with rfl | hdoubled
  · exact Nat.zero_le most
  · unfold MostSlots at h
    split at h
    · omega
    · exact h.2 ⟨hwithin, hdoubled⟩

/-- While they are fewer, doubling them once more does not make them more. -/
theorem double_le {count slots : Nat} (h : MostSlots initial limit most)
    (hslots : SlotsFor initial count slots) (hless : slots < most) :
    max 1 (2 * slots) ≤ most := by
  unfold MostSlots at h
  split at h
  · omega
  · obtain ⟨⟨-, times, rfl⟩, -⟩ := h
    rcases hslots.eq_zero_or with rfl | ⟨fewer, rfl⟩
    · omega
    · have hpow : 2 ^ fewer < 2 ^ times := Nat.lt_of_mul_lt_mul_left hless
      have hfewer : fewer + 1 ≤ times := (Nat.pow_lt_pow_iff_right (by decide)).mp hpow
      have hnext : max 1 initial * 2 ^ (fewer + 1) ≤ max 1 initial * 2 ^ times :=
        Nat.mul_le_mul_left _ (Nat.pow_le_pow_right (by decide) hfewer)
      rw [Nat.pow_succ, ← Nat.mul_assoc] at hnext
      omega

/-- Doubling the most slots once more leaves the limit. -/
theorem lt_double (h : MostSlots initial limit most) : limit < max 1 (2 * most) := by
  unfold MostSlots at h
  split at h
  · omega
  · obtain ⟨⟨-, times, rfl⟩, hgreatest⟩ := h
    have hpositive : 1 ≤ max 1 initial * 2 ^ times :=
      Nat.mul_pos (Nat.le_max_left 1 initial) (Nat.two_pow_pos times)
    refine Nat.not_le.mp fun hwithin => ?_
    have hnext : max 1 initial * 2 ^ (times + 1) = 2 * (max 1 initial * 2 ^ times) := by
      rw [Nat.pow_succ, ← Nat.mul_assoc, Nat.mul_comm]
    have hle : max 1 initial * 2 ^ (times + 1) ≤ max 1 initial * 2 ^ times :=
      hgreatest ⟨by omega, times + 1, rfl⟩
    omega

end MostSlots

/-! ### Scopes under a ceiling -/

/-- A ceiling denies a full scope more slots if twice as many, or the first one, are beyond it or
    too many to be reserved. -/
theorem Scope.isDenied_capped_iff {scope : Scope} {ceiling : Nat} :
    scope.IsDenied (Capped.mk ceiling) ↔
      scope.count = scope.capacity ∧
        min ceiling (slotLimit - 1) < max 1 (2 * scope.capacity) := by
  have hpositive : 0 < slotLimit := by decide
  rw [IsDenied, answer_capped]
  show _ ∧ ¬ (Reply.within ceiling (max 1 (2 * scope.capacity)) = .granted ∧
    max 1 (2 * scope.capacity) < slotLimit) ↔ _
  rw [Reply.within_eq_granted_iff]
  omega

/-- A scope that has grown by no entry and no slot is what it was. -/
theorem Scope.GrowsTo.eq_of_le {scope later : Scope} (h : scope.GrowsTo later)
    (hcount : later.count ≤ scope.count) (hcapacity : later.capacity ≤ scope.capacity) :
    later = scope := by
  have hentries : scope.entries = later.entries := h.entries.eq_of_length_le hcount
  have hslots : scope.capacity = later.capacity := Nat.le_antisymm h.capacity hcapacity
  obtain ⟨level, enclosing, capacity, entries⟩ := scope
  obtain ⟨level', enclosing', capacity', entries'⟩ := later
  obtain ⟨rfl, rfl, -, -⟩ := h
  simp only at hentries hslots
  rw [hentries, hslots]

/-- Whether every name is refused: one that `scope` holds for that, and any other for want of more
    than `slots` slots. -/
def Table.RefusesAll (table : Table Capped) (scope : Scope) (slots : Nat) : Prop :=
  ∀ (name : String) (type : DataType), ∃ events, table.insert name type =
    .done events
      (.error (if scope.lookup name = none then .growthRefused scope.level slots
        else .redeclaration name scope.level), table)

namespace Table

/-- A table under a ceiling whose scopes have grown by doubling, which gives them no more than
    `most` slots. -/
structure LimitedTo (table : Table Capped) (ceiling most : Nat) : Prop
    extends UnderCeiling table ceiling where
  doubles : table.Doubles
  mostSlots : MostSlots table.initialCapacity (min ceiling (Scope.slotLimit - 1)) most

variable {table last : Table Capped} {ceiling most : Nat} {scope : Scope} {outer : List Scope}

namespace LimitedTo

/-! ### What is in its scopes -/

/-- No scope has more slots than doubling gives it. -/
theorem capacity_le_most (h : table.LimitedTo ceiling most) (hscope : scope ∈ table.scopes) :
    scope.capacity ≤ most := by
  refine h.mostSlots.le_of_slotsFor (h.doubles scope hscope) ?_
  have hceiling := h.capacity_le scope hscope
  have hreserved := (h.fits scope hscope).capacity_lt
  omega

/-- So the entries are no more, either. -/
theorem count_le_most (h : table.LimitedTo ceiling most) (hscope : scope ∈ table.scopes) :
    scope.count ≤ most :=
  Nat.le_trans (h.fits scope hscope).count_le (h.capacity_le_most hscope)

/-- With as many entries, there are as many slots. -/
theorem capacity_eq_most (h : table.LimitedTo ceiling most) (hscope : scope ∈ table.scopes)
    (hfull : scope.count = most) : scope.capacity = most := by
  have hslots := h.capacity_le_most hscope
  have hcount := (h.fits scope hscope).count_le
  omega

/-- **A scope is denied more slots exactly if it holds as many entries as it can ever have
    slots.** -/
theorem isDenied_iff (h : table.LimitedTo ceiling most) (hscope : scope ∈ table.scopes) :
    scope.IsDenied table.allocator ↔ scope.count = most := by
  have hslots := h.capacity_le_most hscope
  rw [h.allocator_eq, Scope.isDenied_capped_iff]
  constructor
  · rintro ⟨hfull, hdenied⟩
    -- With fewer slots the next doubling would have been within the ceiling.
    refine Nat.le_antisymm (hfull.trans_le hslots) (Nat.not_lt.mp fun hless => ?_)
    have hdouble := h.mostSlots.double_le (h.doubles scope hscope) (hfull ▸ hless)
    have hlimit := h.mostSlots.le_limit
    omega
  · intro hfull
    rw [h.capacity_eq_most hscope hfull]
    exact ⟨hfull, h.mostSlots.lt_double⟩

/-! ### Insertions -/

/-- While the innermost scope holds fewer entries, a new name takes effect in it. -/
theorem exists_effect (h : table.LimitedTo ceiling most) (hscopes : table.scopes = scope :: outer)
    {name : String} (hnew : scope.lookup name = none) (type : DataType)
    (hless : scope.count < most) :
    ∃ events, Effect table (.insert name type) events
      (.inserted { name, type, level := scope.level })
      { table with
        scopes := scope.withRoom.add { name, type, level := scope.level } :: outer } := by
  have hroom : ¬ scope.IsDenied table.allocator := by
    rw [h.isDenied_iff (hscopes ▸ List.mem_cons_self)]
    exact Nat.ne_of_lt hless
  exact Effect.of_not_isDenied h.fits hscopes hnew hroom type

/-- So it is declared. -/
theorem exists_insert (h : table.LimitedTo ceiling most) (hscopes : table.scopes = scope :: outer)
    {name : String} (hnew : scope.lookup name = none) (type : DataType)
    (hless : scope.count < most) :
    ∃ events entry next, table.insert name type = .done events (.ok entry, next) := by
  obtain ⟨events, heffect⟩ := h.exists_effect hscopes hnew type hless
  exact ⟨events, _, _, insert_eq_done_iff.mpr heffect⟩

/-- With as many entries in its innermost scope, a table refuses all names. -/
theorem refusesAll (h : table.LimitedTo ceiling most) (hscopes : table.scopes = scope :: outer)
    (hfull : scope.count = most) : table.RefusesAll scope most := by
  intro name type
  have hscope : scope ∈ table.scopes := hscopes ▸ List.mem_cons_self
  by_cases hnew : scope.lookup name = none
  · have heffect := Effect.of_isDenied h.fits hscopes hnew ((h.isDenied_iff hscope).mpr hfull) type
    rw [h.capacity_eq_most hscope hfull] at heffect
    rw [if_pos hnew]
    exact ⟨_, insert_eq_done_iff.mpr heffect⟩
  · rw [if_neg hnew]
    exact ⟨_, insert_eq_done_iff.mpr (.redeclared hscopes hnew)⟩

/-! ### Runs -/

/-- **Every operation keeps a table limited.** -/
theorem of_effect (h : table.LimitedTo ceiling most) {operation : Operation} {events : List Event}
    {response : Response} (heffect : Effect table operation events response last) :
    last.LimitedTo ceiling most where
  toUnderCeiling := heffect.underCeiling h.toUnderCeiling
  doubles := heffect.doubles h.fits h.doubles
  mostSlots := heffect.initialCapacity ▸ h.mostSlots

variable {operations : List Operation} {events : List Event} {responses : List Response}

/-- So does a run. -/
theorem of_run (h : table.LimitedTo ceiling most)
    (hrun : table.run operations = .done events (responses, last)) :
    last.LimitedTo ceiling most :=
  (leadsTo_of_run hrun).invariant (·.LimitedTo ceiling most)
    (fun heffect hmoment => hmoment.of_effect heffect) h

/-- **Until it has as many entries, a scope takes any names** that are new to it, no two of them
    the same. -/
theorem exists_run_filling (h : table.LimitedTo ceiling most)
    (hscopes : table.scopes = scope :: outer) {declarations : List (String × DataType)}
    (hdistinct : (declarations.map Prod.fst).Nodup)
    (hnew : ∀ declaration ∈ declarations, scope.lookup declaration.1 = none)
    (hfit : scope.count + declarations.length ≤ most) :
    ∃ events responses last later,
      table.run (declaring declarations) = .done events (responses, last) ∧
        last.scopes = later :: outer ∧ later.level = scope.level ∧
        later.count = scope.count + declarations.length ∧
        ∀ name, name ∉ declarations.map Prod.fst → later.lookup name = scope.lookup name := by
  induction declarations generalizing table scope with
  | nil => exact ⟨[], [], table, scope, rfl, hscopes, rfl, rfl, fun _ _ => rfl⟩
  | cons declaration rest ih =>
    obtain ⟨name, type⟩ := declaration
    obtain ⟨hfirst, hrest⟩ := List.nodup_cons.mp hdistinct
    rw [List.forall_mem_cons] at hnew
    rw [List.length_cons] at hfit
    obtain ⟨_, heffect⟩ := h.exists_effect hscopes hnew.1 type (by omega)
    -- The names still to come are as new to the scope as they were.
    have hnew' : ∀ declaration ∈ rest,
        (scope.withRoom.add ⟨name, type, scope.level⟩).lookup declaration.1 = none := by
      intro declaration hmem
      have hmem' : declaration.1 ∈ rest.map Prod.fst := List.mem_map_of_mem hmem
      have hother : name ≠ declaration.1 := (ne_of_mem_of_not_mem hmem' hfirst).symm
      rw [Scope.lookup_withRoom_add hother, hnew.2 declaration hmem]
    obtain ⟨_, _, last, later, hrun, hlast, hlevel, hcount, hothers⟩ :=
      ih (h.of_effect heffect) rfl hrest hnew' (by rw [Scope.count_withRoom_add]; omega)
    refine ⟨_, _, last, later, run_cons_eq_done heffect hrun, hlast, ?_, ?_, fun other hother => ?_⟩
    · rw [hlevel, Scope.withRoom_eq]
      rfl
    · rw [hcount, Scope.count_withRoom_add, List.length_cons]
      omega
    · rw [List.map_cons, List.mem_cons, not_or] at hother
      rw [hothers other hother.2, Scope.lookup_withRoom_add (Ne.symm hother.1)]

/-- **A scope with as many entries stays as it is** for as long as it is open. -/
theorem full_of_run (h : table.LimitedTo ceiling most)
    (hrun : table.run operations = .done events (responses, last)) {before after : Nat}
    (hscope : table.scopes.drop before = scope :: outer)
    (hinside : inside? before responses = some after) (hfull : scope.count = most) :
    last.scopes.drop after = scope :: outer := by
  obtain ⟨later, hlater, hgrows⟩ := grows_of_run hrun hscope hinside
  have hmem : scope ∈ table.scopes := List.mem_of_mem_drop (hscope ▸ List.mem_cons_self)
  have hmem' : later ∈ last.scopes := List.mem_of_mem_drop (hlater ▸ List.mem_cons_self)
  -- It could only have grown, and there was no room for that.
  have hslots := h.capacity_eq_most hmem hfull
  have hcount' := (h.of_run hrun).count_le_most hmem'
  have hslots' := (h.of_run hrun).capacity_le_most hmem'
  rw [hlater, hgrows.eq_of_le (by omega) (by omega)]

end LimitedTo

/-- A table that is made under a ceiling is limited by it. -/
theorem exists_limitedTo_of_create {capacity : Nat} {created : List Event}
    (hcreate : create capacity (Capped.mk ceiling) = .done created table) :
    table.initialCapacity = capacity ∧ ∃ most, table.LimitedTo ceiling most := by
  obtain ⟨hcan, -, rfl⟩ := create_eq_done_iff.mp hcreate
  have hslots : capacity < Scope.slotLimit := hcan.2.2
  have hle : capacity ≤ ceiling := Reply.within_eq_granted_iff.mp hcan.2.1
  obtain ⟨most, hmost⟩ : ∃ most, MostSlots capacity (min ceiling (Scope.slotLimit - 1)) most :=
    MostSlots.exists_of_le (by omega)
  exact ⟨rfl, most, (underCeiling_blank hle hslots).opened hcan, (doubles_blank _ _).opened, hmost⟩

/-! ### A root filled with numerals -/

/-- The numerals of the numbers below `bound`, each to be declared as an integer. -/
def numerals (bound : Nat) : List (String × DataType) :=
  (List.range bound).map fun number => (number.repr, .int)

@[simp] theorem length_numerals (bound : Nat) : (numerals bound).length = bound := by
  rw [numerals, List.length_map, List.length_range]

theorem map_fst_numerals (bound : Nat) :
    (numerals bound).map Prod.fst = (List.range bound).map Nat.repr := by
  rw [numerals, List.map_map]
  rfl

theorem nodup_numerals (bound : Nat) : ((numerals bound).map Prod.fst).Nodup := by
  rw [map_fst_numerals]
  exact List.nodup_range.map fun _ _ => Text.eq_of_repr_eq

theorem repr_notMem_numerals (bound : Nat) : bound.repr ∉ (numerals bound).map Prod.fst := by
  rw [map_fst_numerals, List.mem_map]
  rintro ⟨number, hnumber, hsame⟩
  rw [Text.eq_of_repr_eq hsame, List.mem_range] at hnumber
  exact Nat.lt_irrefl bound hnumber

/-- With half of what can be reserved to start with, or more, a root takes as many names as it has
    slots then, and after that it refuses all. -/
theorem exists_full_root {capacity ceiling : Nat} (hle : capacity ≤ ceiling)
    (hless : capacity < Scope.slotLimit) (hhalf : Scope.slotLimit ≤ 2 * capacity) :
    ∃ created start events responses table scope,
      create capacity (Capped.mk ceiling) = .done created start ∧
        start.run (declaring (numerals capacity)) = .done events (responses, table) ∧
        table.scopes = [scope] ∧ scope.level = 0 ∧ scope.count = capacity ∧
        scope.lookup capacity.repr = none ∧ table.RefusesAll scope capacity := by
  have hlevels : 0 < levelLimit := by decide
  have hcan : (blank capacity (Capped.mk ceiling)).CanOpen :=
    (underCeiling_blank hle hless).canOpen hlevels
  have hcreate := create_eq_done_iff.mpr ⟨hcan, rfl, rfl⟩
  obtain ⟨-, most, hstart⟩ := exists_limitedTo_of_create hcreate
  have hmost : MostSlots capacity (min ceiling (Scope.slotLimit - 1)) capacity :=
    .of_lt_double (by omega) (by omega)
  obtain rfl : most = capacity := hstart.mostSlots.unique hmost
  have hfit : (Scope.fresh 0 none most).count + (numerals most).length ≤ most := by simp
  obtain ⟨events, responses, table, scope, hrun, hscopes, hlevel, hcount, hothers⟩ :=
    hstart.exists_run_filling rfl (nodup_numerals most) (fun _ _ => rfl) hfit
  rw [length_numerals, Scope.count_fresh, Nat.zero_add] at hcount
  refine ⟨_, _, events, responses, table, scope, hcreate, hrun, hscopes, hlevel, hcount, ?_, ?_⟩
  · rw [hothers _ (repr_notMem_numerals most)]
    rfl
  · exact (hstart.of_run hrun).refusesAll hscopes hcount

/-! ### Reachable tables -/

/-- **A ceiling lets every scope take the same number of names, and one that has taken them is full
    for good.**  This number is the most slots that doubling comes to within the ceiling, or within
    what can be reserved where the ceiling is beyond that.  At any time after the table was made,

    * a name that is new to the innermost scope is declared exactly if that scope holds fewer names;
    * a scope that holds as many stays as it is through any later operations that do not close it,
      in it or in others, and whenever it is innermost it refuses every name, be it new to the scope
      or not, and nothing changes by that. -/
theorem insert_under_ceiling {capacity ceiling : Nat} {created : List Event} {start : Table Capped}
    (hcreate : create capacity (Capped.mk ceiling) = .done created start) :
    ∃ most, MostSlots capacity (min ceiling (Scope.slotLimit - 1)) most ∧
      (ceiling < Scope.slotLimit → MostSlots capacity ceiling most) ∧
      ∀ (history : List Operation) (events : List Event) (responses : List Response)
        (table : Table Capped), start.run history = .done events (responses, table) →
        (∀ (scope : Scope) (outer : List Scope) (name : String) (type : DataType),
          table.scopes = scope :: outer → scope.lookup name = none →
          ((∃ events entry next, table.insert name type = .done events (.ok entry, next)) ↔
            scope.count < most)) ∧
        ∀ (before after : Nat) (scope : Scope) (outer : List Scope) (later : List Operation)
          (reported : List Event) (answers : List Response) (last : Table Capped),
          table.scopes.drop before = scope :: outer → scope.count = most →
          table.run later = .done reported (answers, last) →
          inside? before answers = some after →
          last.scopes.drop after = scope :: outer ∧
            (after = 0 → last.RefusesAll scope most) := by
  obtain ⟨rfl, most, hstart⟩ := exists_limitedTo_of_create hcreate
  refine ⟨most, hstart.mostSlots, fun hless => ?_, ?_⟩
  · have hmost := hstart.mostSlots
    rwa [Nat.min_eq_left (Nat.le_sub_one_of_lt hless)] at hmost
  intro history events responses table hrun
  have htable : table.LimitedTo ceiling most := hstart.of_run hrun
  constructor
  · intro scope outer name type hscopes hnew
    refine ⟨?_, htable.exists_insert hscopes hnew type⟩
    rintro ⟨events, entry, next, hinsert⟩
    have hcount := htable.count_le_most (hscopes ▸ List.mem_cons_self)
    refine Nat.lt_of_le_of_ne hcount fun hfull => ?_
    obtain ⟨reported, hrefused⟩ := htable.refusesAll hscopes hfull name type
    rw [hinsert] at hrefused
    cases hrefused
  · intro before after scope outer later reported answers last hscope hfull hlater hinside
    have hsame := htable.full_of_run hlater hscope hinside hfull
    refine ⟨hsame, ?_⟩
    rintro rfl
    exact (htable.of_run hlater).refusesAll hsame hfull

/-- Scopes of one slot under a ceiling of three, so that two names fit.  The full scope is found
    so with a scope inside it, in which more is tried; then that scope is closed, and another comes
    and goes. -/
theorem insert_under_ceiling_buried :
    let history : List Operation :=
      [.insert "a" .int, .openScope, .insert "a" .char, .insert "b" .char, .insert "c" .int,
        .openScope]
    let later : List Operation :=
      [.insert "c" .void, .closeScope, .insert "c" .int, .openScope, .closeScope]
    let root : Scope := ⟨0, none, 1, [⟨"a", .int, 0⟩]⟩
    let full : Scope := ⟨1, some 0, 2, [⟨"a", .char, 1⟩, ⟨"b", .char, 1⟩]⟩
    ∃ created start events responses table reported answers last,
      create 1 (Capped.mk 3) = .done created start ∧
        start.run history = .done events (responses, table) ∧
        MostSlots 1 3 2 ∧ table.scopes = [.fresh 2 (some 1) 1, full, root] ∧
        (∃ events entry next, table.insert "b" .int = .done events (.ok entry, next)) ∧
        table.run later = .done reported (answers, last) ∧ inside? 1 answers = some 0 ∧
        last.scopes = [full, root] ∧ last.RefusesAll full 2 := by
  intro history later root full
  have hcreate : create 1 (Capped.mk 3) = .done _ _ := rfl
  have hrun : (blank 1 (Capped.mk 3)).opened.run history = .done _ (_, _) := rfl
  have htwo : MostSlots 1 3 2 := .of_between 1 (by decide) (by decide)
  obtain ⟨most, -, hmost, hall⟩ := insert_under_ceiling hcreate
  obtain rfl : most = 2 := (hmost (by decide)).unique htwo
  obtain ⟨hinsert, hfull⟩ := hall _ _ _ _ hrun
  have hroom := (hinsert (.fresh 2 (some 1) 1) [full, root] "b" .int rfl rfl).mpr (by decide)
  obtain ⟨hscopes, hrefuses⟩ := hfull 1 0 full [root] later _ _ _ rfl rfl rfl rfl
  exact ⟨_, _, _, _, _, _, _, _, hcreate, hrun, htwo, rfl, hroom, rfl, rfl, hscopes, hrefuses rfl⟩

/-- **Where the ceiling is beyond what can be reserved, it does not tell how many names a scope
    takes.**  Doubling half of `Scope.slotLimit` slots once comes to a ceiling of `Scope.slotLimit`.
    But no scope gets that many: a root with as many names as it has slots to start with refuses the
    next one, although the ceiling would grant it more.  And a table whose scopes would start with
    so many slots is not made at all. -/
theorem insert_beyond_slotLimit :
    (MostSlots (2 ^ 57) (2 ^ 58) (2 ^ 58) ∧
      ∃ created start events responses table scope,
        create (2 ^ 57) (Capped.mk (2 ^ 58)) = .done created start ∧
          start.run (declaring (numerals (2 ^ 57))) = .done events (responses, table) ∧
          table.scopes = [scope] ∧ scope.count = 2 ^ 57 ∧
          scope.lookup (Nat.repr (2 ^ 57)) = none ∧
          ∃ reported, table.insert (Nat.repr (2 ^ 57)) .int =
            .done reported (.error (.growthRefused 0 (2 ^ 57)), table)) ∧
      MostSlots (2 ^ 58) (2 ^ 58) (2 ^ 58) ∧
        create (2 ^ 58) (Capped.mk (2 ^ 58)) = .aborted [] (.scopeRefused 0 (2 ^ 58)) := by
  have hlimit : 2 ^ 58 = Scope.slotLimit := by decide
  have hdouble : 2 ^ 58 = 2 * 2 ^ 57 := by decide
  have hpositive : 0 < 2 ^ 57 := by decide
  refine ⟨⟨.of_eq_double hpositive hdouble, ?_⟩, .of_lt_double (Nat.le_refl _) (by omega), ?_⟩
  · obtain ⟨created, start, events, responses, table, scope, hcreate, hrun, hscopes, hlevel,
      hcount, hnew, hrefuses⟩ :=
      @exists_full_root (2 ^ 57) (2 ^ 58) (by omega) (by omega) (by omega)
    obtain ⟨reported, hrefused⟩ := hrefuses (Nat.repr (2 ^ 57)) .int
    rw [if_pos hnew, hlevel] at hrefused
    exact ⟨created, start, events, responses, table, scope, hcreate, hrun, hscopes, hcount, hnew,
      reported, hrefused⟩
  · rw [hlimit]
    rfl

end Table

end Frontend
