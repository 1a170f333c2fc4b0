import Frontend.Allocator.Rationed
import Frontend.Proofs.Table.Lifetime
import Mathlib.Data.List.DropRight

namespace Frontend

/-!
# Levels

A level is the number of an opening: scopes are counted as they are opened, from the root that a
table begins with, and the counting starts over when the table is emptied.

* `openings` — how many scopes a history has opened since its last reset, `OpensAt` at what times;
* `eq_of_openings_eq` — between two resets, no two openings have the same number;
* `OpenedAt` — when a scope that is open after some turns was opened;
* `Table.handsOut_iff` — the level of a scope is the number of its opening;
* `Table.LeadsTo.exists_openedAt` — every open scope has an opening;
* `Table.levels_of_run` — so between two resets a level belongs to one scope only.

A time of a history is a number of operations that have been carried out.
-/

/-! ### Counting openings -/

/-- The operations since the last reset; all of them if there is none. -/
def sinceReset (history : List Operation) : List Operation :=
  history.rtakeWhile (· ≠ .reset)

/-- How many scopes have been opened since the last reset, or since the beginning.  The root that
    was opened then does not count. -/
def openings (history : List Operation) : Nat := (sinceReset history).count .openScope

@[simp] theorem openings_nil : openings [] = 0 := rfl

/-- A reset starts the count over, an opening goes on with it, and nothing else does. -/
theorem openings_snoc (history : List Operation) (operation : Operation) :
    openings (history ++ [operation]) =
      if operation = .reset then 0 else openings history + [operation].count .openScope := by
  unfold openings sinceReset
  rw [List.rtakeWhile_concat]
  by_cases hreset : operation = .reset <;> simp [hreset]

/-- Without a reset, later openings are counted on. -/
theorem openings_append {later : List Operation} (hreset : .reset ∉ later)
    (earlier : List Operation) :
    openings (earlier ++ later) = openings earlier + later.count .openScope := by
  induction later using List.reverseRecOn with
  | nil => simp
  | append_singleton later operation ih =>
    rw [List.mem_append, not_or, List.mem_singleton] at hreset
    rw [← List.append_assoc, openings_snoc, if_neg (Ne.symm hreset.2), ih hreset.1,
      List.count_append, Nat.add_assoc]

/-- By the time after an opening, one more scope has been opened. -/
theorem openings_take_of_openScope {history : List Operation} {time : Nat}
    (hopen : history[time]? = some .openScope) :
    openings (history.take (time + 1)) = openings (history.take time) + 1 := by
  rw [List.take_add_one, hopen, Option.toList_some, openings_snoc, if_neg (by decide),
    List.count_singleton_self]

/-- By the time after a reset, none has. -/
theorem openings_take_of_reset {history : List Operation} {time : Nat}
    (hreset : history[time]? = some .reset) : openings (history.take (time + 1)) = 0 := by
  rw [List.take_add_one, hreset, Option.toList_some, openings_snoc, if_pos rfl]

/-- Whether a scope has just been opened at a time: the first root, or what the operation before
    has opened. -/
def OpensAt (history : List Operation) : Nat → Prop
  | 0 => True
  | time + 1 => history[time]? = some .openScope ∨ history[time]? = some .reset

/-- How often a table has been emptied by a time.  Times with the same number of resets before them
    lie between the same two. -/
def resetsBefore (history : List Operation) (time : Nat) : Nat :=
  (history.take time).count .reset

theorem opensAt_append {earlier : List Operation} {time : Nat} (htime : time ≤ earlier.length)
    (later : List Operation) : OpensAt (earlier ++ later) time ↔ OpensAt earlier time := by
  cases time with
  | zero => exact Iff.rfl
  | succ time => rw [OpensAt, OpensAt, List.getElem?_append_left htime]

/-- The operations between two times, of which the later is right after one of them. -/
theorem mem_drop_take {history : List Operation} {operation : Operation} {time last : Nat}
    (hlast : history[last]? = some operation) (htime : time ≤ last) :
    operation ∈ (history.take (last + 1)).drop time := by
  have hplace : ((history.take (last + 1)).drop time)[last - time]? = some operation := by
    rw [List.getElem?_drop, Nat.add_sub_cancel' htime,
      List.getElem?_take_of_lt (Nat.lt_succ_self last), hlast]
  exact List.mem_of_getElem? hplace

/-- **Between two resets, a later opening has a larger number.** -/
theorem openings_lt_of_opensAt {history : List Operation} {time other : Nat}
    (hopens : OpensAt history other) (hless : time < other)
    (hresets : resetsBefore history time = resetsBefore history other) :
    openings (history.take time) < openings (history.take other) := by
  obtain ⟨last, rfl⟩ : ∃ last, other = last + 1 := ⟨other - 1, by omega⟩
  have hparts : history.take (last + 1) =
      history.take time ++ (history.take (last + 1)).drop time := by
    have htake : (history.take (last + 1)).take time = history.take time := by
      rw [List.take_take, Nat.min_eq_left (Nat.le_of_lt hless)]
    rw [← htake, List.take_append_drop]
  -- Nothing in between empties the table, so the last of it is an opening.
  have hbetween : .reset ∉ (history.take (last + 1)).drop time := by
    rw [← List.count_eq_zero]
    unfold resetsBefore at hresets
    rw [hparts, List.count_append] at hresets
    omega
  have hopened : .openScope ∈ (history.take (last + 1)).drop time := by
    rcases hopens with hopen | hreset
    · exact mem_drop_take hopen (by omega)
    · exact absurd (mem_drop_take hreset (by omega)) hbetween
  have hcount := List.count_pos_iff.mpr hopened
  rw [hparts, openings_append hbetween]
  omega

/-- So no two openings between the same resets share a number. -/
theorem eq_of_openings_eq {history : List Operation} {time other : Nat}
    (htime : OpensAt history time) (hother : OpensAt history other)
    (hresets : resetsBefore history time = resetsBefore history other)
    (hsame : openings (history.take time) = openings (history.take other)) : time = other := by
  rcases Nat.lt_trichotomy time other with hless | heq | hless
  · have := openings_lt_of_opensAt hother hless hresets
    omega
  · exact heq
  · have := openings_lt_of_opensAt htime hless hresets.symm
    omega

/-! ### When an open scope was opened -/

/-- Some turns, seen from the scope that they opened at `time`: it is still open after them, with
    `inside` others inside it, and no reset came since. -/
structure OpenedAt (turns : List Turn) (time inside : Nat) : Prop where
  le : time ≤ turns.length
  opens : OpensAt (turns.map Prod.fst) time
  lasts : inside? 0 ((turns.drop time).map Prod.snd) = some inside
  notReset : .reset ∉ (turns.drop time).map Prod.fst

namespace OpenedAt

variable {turns : List Turn} {turn : Turn} {time : Nat}

/-- What has just been opened is innermost. -/
theorem last (hopens : turn.1 = .openScope ∨ turn.1 = .reset) :
    OpenedAt (turns ++ [turn]) (turns.length + 1) 0 where
  le := by simp
  opens := by simpa [OpensAt] using hopens
  lasts := by simp
  notReset := by simp

/-- One more turn that leaves the scope open. -/
theorem snoc {before after : Nat} (h : OpenedAt turns time before) (hreset : turn.1 ≠ .reset)
    (hinside : turn.2.inside? before = some after) : OpenedAt (turns ++ [turn]) time after where
  le := by
    rw [List.length_append]
    exact Nat.le_add_right_of_le h.le
  opens := by
    rw [List.map_append, opensAt_append (by simpa using h.le)]
    exact h.opens
  lasts := by
    rw [List.drop_append_of_le_length h.le, List.map_append, List.map_singleton, inside?_snoc,
      h.lasts]
    exact hinside
  notReset := by
    rw [List.drop_append_of_le_length h.le, List.map_append, List.mem_append, not_or]
    exact ⟨h.notReset, by simpa using Ne.symm hreset⟩

/-- The turn lies after the opening, so it is not among those counted at the opening. -/
theorem openings_take (h : OpenedAt turns time inside) (later : List Turn) :
    openings (((turns ++ later).map Prod.fst).take time) =
      openings ((turns.map Prod.fst).take time) := by
  rw [List.map_append, List.take_append_of_le_length (by simpa using h.le)]

end OpenedAt

namespace Table

variable {σ : Type} [Allocator σ]

/-! ### The levels of open scopes -/

/-- After every operation, the next level is the number of the next opening if it was before. -/
theorem Effect.nextLevel_eq {table next : Table σ} {operation : Operation} {events : List Event}
    {response : Response} (heffect : Effect table operation events response next)
    {history : List Operation} (h : table.nextLevel = openings history + 1) :
    next.nextLevel = openings (history ++ [operation]) + 1 := by
  rw [openings_snoc]
  by_cases hreset : operation = .reset
  · subst hreset
    cases heffect
    rfl
  · rw [if_neg hreset, heffect.nextLevel hreset, h]
    omega

/-- So it is the number of the next opening in every run. -/
theorem LeadsTo.nextLevel_eq {capacity : Nat} {allocator : σ} {turns : List Turn}
    {events : List Event} {last : Table σ}
    (hrun : LeadsTo (blank capacity allocator).opened turns events last) :
    last.nextLevel = openings (turns.map Prod.fst) + 1 := by
  induction hrun with
  | nil => rfl
  | snoc _ heffect ih =>
    rw [List.map_append, List.map_singleton]
    exact heffect.nextLevel_eq ih

/-- The levels of the open scopes, the innermost first. -/
def levels (table : Table σ) : List Nat := table.scopes.map Scope.level

/-- **Every open scope has an opening**, and its level is the number of it. -/
theorem LeadsTo.exists_openedAt {capacity : Nat} {allocator : σ} {turns : List Turn}
    {events : List Event} {last : Table σ}
    (hrun : LeadsTo (blank capacity allocator).opened turns events last) {inside level : Nat}
    (hlevel : last.levels[inside]? = some level) :
    ∃ time, OpenedAt turns time inside ∧ level = openings ((turns.map Prod.fst).take time) := by
  induction hrun generalizing inside with
  | nil =>
    cases inside with
    | zero =>
      cases hlevel
      exact ⟨0, ⟨Nat.le_refl 0, trivial, rfl, List.not_mem_nil⟩, rfl⟩
    | succ inside => simp [levels, blank] at hlevel
  | snoc hbefore heffect ih =>
    rename_i turns _ _ middle next turn
    obtain ⟨operation, response⟩ := turn
    have hnext : middle.nextLevel = openings (turns.map Prod.fst) + 1 :=
      LeadsTo.nextLevel_eq hbefore
    have hall : ((turns ++ [(operation, response)]).map Prod.fst).take (turns.length + 1) =
        turns.map Prod.fst ++ [operation] := List.take_of_length_le (by simp) |>.trans (by simp)
    -- A scope that was open before the last turn, and still is after it.
    have hkept {before : Nat} (hmiddle : middle.levels[before]? = some level)
        (hreset : operation ≠ .reset) (hinside : response.inside? before = some inside) :
        ∃ time, OpenedAt (turns ++ [(operation, response)]) time inside ∧
          level = openings (((turns ++ [(operation, response)]).map Prod.fst).take time) := by
      obtain ⟨time, hopened, hsame⟩ := ih hmiddle
      exact ⟨time, hopened.snoc hreset hinside, by rw [hopened.openings_take, hsame]⟩
    cases heffect with
    | opened hcan =>
      rw [levels, scopes_opened, List.map_cons] at hlevel
      cases inside with
      | zero =>
        rw [List.getElem?_cons_zero, Option.some.injEq] at hlevel
        refine ⟨turns.length + 1, .last (.inl rfl), ?_⟩
        rw [hall, openings_snoc, if_neg (by decide), ← hlevel]
        exact hnext
      | succ inside => exact hkept hlevel (by decide) rfl
    | nothingToClose | nowhereToInsert | redeclared | growthRefused =>
      exact hkept hlevel (by simp) rfl
    | closed hscopes =>
      -- Before it was closed, the innermost scope lay inside this one, too.
      have hmiddle : middle.levels[inside + 1]? = some level := by
        rw [levels, hscopes, List.map_cons, List.getElem?_cons_succ]
        exact hlevel
      exact hkept hmiddle (by decide) rfl
    | inserted hscopes hnew hroom hentry =>
      -- The scope declared in is another one now, but on the same level.
      obtain ⟨hsame, -⟩ := Scope.of_makeRoom_eq_some hroom
      refine hkept ?_ (by simp) rfl
      rw [levels, hscopes, List.map_cons, ← hsame]
      exact hlevel
    | restarted hcan =>
      cases inside with
      | zero =>
        cases hlevel
        refine ⟨turns.length + 1, .last (.inr rfl), ?_⟩
        rw [hall, openings_snoc, if_pos rfl]
        rfl
      | succ inside => simp [levels, blank] at hlevel

/-! ### Moments of a run -/

variable {table last : Table σ} {history : List Operation} {events : List Event}
  {responses : List Response}

theorem getElem?_moments_zero (table : Table σ) (history : List Operation) :
    (table.moments history)[0]? = some table := by
  cases history with
  | nil => rfl
  | cons operation rest =>
    rw [moments]
    split <;> rfl

/-- The moment at a time of a run is where the operations before lead. -/
theorem run_take (h : table.run history = .done events (responses, last)) {time : Nat}
    (htime : time ≤ history.length) :
    ∃ reported moment,
      table.run (history.take time) = .done reported (responses.take time, moment) ∧
      (table.moments history)[time]? = some moment := by
  induction history generalizing table events responses time with
  | nil =>
    have hzero : time = 0 := Nat.le_zero.mp htime
    subst hzero
    exact ⟨[], table, rfl, rfl⟩
  | cons operation rest ih =>
    cases time with
    | zero => exact ⟨[], table, rfl, getElem?_moments_zero table _⟩
    | succ time =>
      obtain ⟨_, _, middle, _, _, heffect, hrest, rfl, rfl⟩ := of_run_cons_eq_done h
      obtain ⟨reported, moment, hrun, hmoment⟩ := ih hrest (Nat.le_of_succ_le_succ htime)
      rw [List.take_succ_cons, List.take_succ_cons, moments_cons heffect, List.getElem?_cons_succ]
      exact ⟨_, moment, run_cons_eq_done heffect hrun, hmoment⟩

/-- An operation of a run leads from the moment before to the moment after. -/
theorem effect_of_getElem? (h : table.run history = .done events (responses, last)) {time : Nat}
    {operation : Operation} (hoperation : history[time]? = some operation) :
    ∃ reported response moment next, Effect moment operation reported response next ∧
      responses[time]? = some response ∧ (table.moments history)[time]? = some moment ∧
      (table.moments history)[time + 1]? = some next := by
  induction history generalizing table events responses time with
  | nil => simp at hoperation
  | cons first rest ih =>
    obtain ⟨_, response, middle, _, _, heffect, hrest, rfl, rfl⟩ := of_run_cons_eq_done h
    rw [moments_cons heffect]
    cases time with
    | zero =>
      cases hoperation
      exact ⟨_, response, table, middle, heffect, rfl, rfl, getElem?_moments_zero middle rest⟩
    | succ time => exact ih hrest hoperation

/-! ### Levels handed out -/

/-- Whether a run hands out a level at a time: a scope has just been opened, on that level. -/
def HandsOut (start : Table σ) (history : List Operation) (time level : Nat) : Prop :=
  OpensAt history time ∧ ∃ moment, (start.moments history)[time]? = some moment ∧
    moment.currentLevel? = some level

variable {capacity : Nat} {allocator : σ}

/-- The next level at a moment of a run is the number of the next opening. -/
theorem nextLevel_moment (h : (blank capacity allocator).opened.run history =
      .done events (responses, last)) {time : Nat} {moment : Table σ}
    (htime : time ≤ history.length)
    (hmoment : ((blank capacity allocator).opened.moments history)[time]? = some moment) :
    moment.nextLevel = openings (history.take time) + 1 := by
  obtain ⟨reported, moment', hrun, hmoment'⟩ := run_take h htime
  rw [hmoment, Option.some.injEq] at hmoment'
  subst hmoment'
  have hlength := length_of_run_eq_done hrun
  have hlevel := LeadsTo.nextLevel_eq (leadsTo_of_run hrun)
  rwa [List.map_fst_zip (Nat.le_of_eq hlength.symm)] at hlevel

/-- Right after an opening, the innermost scope is on the level of that number. -/
theorem exists_moment_of_opensAt (h : (blank capacity allocator).opened.run history =
      .done events (responses, last)) {time : Nat} (hopens : OpensAt history time) :
    ∃ moment, ((blank capacity allocator).opened.moments history)[time]? = some moment ∧
      moment.currentLevel? = some (openings (history.take time)) := by
  cases time with
  | zero => exact ⟨_, getElem?_moments_zero _ history, rfl⟩
  | succ time =>
    rcases hopens with hopen | hreset
    · obtain ⟨_, _, moment, next, heffect, -, hmoment, hnext⟩ := effect_of_getElem? h hopen
      have hlength : time < history.length := (List.getElem?_eq_some_iff.mp hopen).1
      have hlevel := nextLevel_moment h (Nat.le_of_lt hlength) hmoment
      refine ⟨next, hnext, ?_⟩
      rw [openings_take_of_openScope hopen]
      cases heffect with
      | opened hcan => exact congrArg some hlevel
    · obtain ⟨_, _, moment, next, heffect, -, -, hnext⟩ := effect_of_getElem? h hreset
      refine ⟨next, hnext, ?_⟩
      rw [openings_take_of_reset hreset]
      cases heffect with
      | restarted hcan => rfl

/-- **A level is the number of an opening.** -/
theorem handsOut_iff (h : (blank capacity allocator).opened.run history =
      .done events (responses, last)) {time level : Nat} :
    HandsOut (blank capacity allocator).opened history time level ↔
      OpensAt history time ∧ level = openings (history.take time) := by
  constructor
  · rintro ⟨hopens, moment, hmoment, hlevel⟩
    obtain ⟨moment', hmoment', hlevel'⟩ := exists_moment_of_opensAt h hopens
    rw [hmoment, Option.some.injEq] at hmoment'
    rw [← hmoment', hlevel, Option.some.injEq] at hlevel'
    exact ⟨hopens, hlevel'⟩
  · rintro ⟨hopens, rfl⟩
    exact ⟨hopens, exists_moment_of_opensAt h hopens⟩

/-- The scopes that are open at a time have been opened since the last reset before it, and the
    responses since then tell how far in they are. -/
theorem exists_handsOut (h : (blank capacity allocator).opened.run history =
      .done events (responses, last)) {time inside level : Nat} {moment : Table σ}
    (htime : time ≤ history.length)
    (hmoment : ((blank capacity allocator).opened.moments history)[time]? = some moment)
    (hlevel : moment.levels[inside]? = some level) :
    ∃ opening ≤ time, HandsOut (blank capacity allocator).opened history opening level ∧
      resetsBefore history opening = resetsBefore history time ∧
      inside? 0 ((responses.take time).drop opening) = some inside := by
  obtain ⟨reported, moment', hrun, hmoment'⟩ := run_take h htime
  rw [hmoment, Option.some.injEq] at hmoment'
  subst hmoment'
  obtain ⟨opening, ⟨hle, hopens, hlasts, hreset⟩, hnumber⟩ :=
    LeadsTo.exists_openedAt (leadsTo_of_run hrun) hlevel
  have hlength := length_of_run_eq_done hrun
  have hbefore : opening ≤ time := by
    rw [List.length_zip, hlength, Nat.min_self, List.length_take] at hle
    omega
  rw [List.map_drop, List.map_snd_zip (Nat.le_of_eq hlength)] at hlasts
  rw [List.map_drop] at hreset
  rw [List.map_fst_zip (Nat.le_of_eq hlength.symm)] at hopens hreset hnumber
  have htake : (history.take time).take opening = history.take opening := by
    rw [List.take_take, Nat.min_eq_left hbefore]
  rw [htake] at hnumber
  have hopens' : OpensAt history opening := by
    have hparts := List.take_append_drop time history
    rw [← hparts, opensAt_append (by rw [List.length_take]; omega)]
    exact hopens
  refine ⟨opening, hbefore, (handsOut_iff h).mpr ⟨hopens', hnumber⟩, ?_, hlasts⟩
  -- No reset came between the two times.
  have hparts := List.take_append_drop opening (history.take time)
  unfold resetsBefore
  rw [← hparts, List.count_append, List.count_eq_zero.mpr hreset, htake, Nat.add_zero]

/-- An opening is answered with its number, which is one of the levels there are. -/
theorem response_of_openScope (h : (blank capacity allocator).opened.run history =
      .done events (responses, last)) {time : Nat} (hopen : history[time]? = some .openScope) :
    responses[time]? = some (.opened (openings (history.take (time + 1)))) ∧
      openings (history.take (time + 1)) < levelLimit := by
  have hlength : time < history.length := (List.getElem?_eq_some_iff.mp hopen).1
  obtain ⟨_, _, moment, next, heffect, hresponse, hmoment, -⟩ := effect_of_getElem? h hopen
  have hlevel := nextLevel_moment h (Nat.le_of_lt hlength) hmoment
  cases heffect with
  | opened hcan =>
    rw [openings_take_of_openScope hopen, ← hlevel]
    exact ⟨hresponse, hcan.1⟩

/-- An entry is on the level of the scope that was innermost when it was declared. -/
theorem exists_handsOut_of_inserted (h : (blank capacity allocator).opened.run history =
      .done events (responses, last)) {time : Nat} {entry : Entry}
    (hinserted : responses[time]? = some (.inserted entry)) :
    ∃ opening ≤ time,
      HandsOut (blank capacity allocator).opened history opening entry.level ∧
        resetsBefore history opening = resetsBefore history time ∧
        inside? 0 ((responses.take time).drop opening) = some 0 := by
  have hlength : time < history.length := by
    rw [← length_of_run_eq_done h]
    exact (List.getElem?_eq_some_iff.mp hinserted).1
  obtain ⟨_, _, moment, next, heffect, hresponse, hmoment, -⟩ :=
    effect_of_getElem? h (List.getElem?_eq_getElem hlength)
  rw [hinserted, Option.some.injEq] at hresponse
  subst hresponse
  have hlevel : moment.levels[0]? = some entry.level := by
    generalize history[time] = operation at heffect
    cases heffect with
    | inserted hscopes hnew hroom hentry =>
      rw [levels, hscopes]
      rfl
  exact exists_handsOut h (Nat.le_of_lt hlength) hmoment hlevel

/-- **A level is never handed out twice.**  In every run the root that a table begins with, or that
    it is left with by a reset, is on level 0, and the `k`-th opening after that is answered with
    level `k`, however many scopes have been closed, names declared and operations refused in
    between, and however often no scope was open.

    So between two resets no level is handed to two scopes; and the level of an entry belongs to
    one scope only among all that are opened between the two resets around its declaration, still
    open or not: to the one that was innermost when it was declared.

    The levels of a run never run out: where an opening has no level left the program ends. -/
theorem levels_of_run {start : Table σ} {created : List Event}
    (hcreate : create capacity allocator = .done created start)
    (hrun : start.run history = .done events (responses, last)) :
    (HandsOut start history 0 0 ∧
        ∀ time, history[time]? = some .reset → HandsOut start history (time + 1) 0) ∧
      (∀ time, history[time]? = some .openScope →
        responses[time]? = some (.opened (openings (history.take (time + 1)))) ∧
          HandsOut start history (time + 1) (openings (history.take (time + 1))) ∧
          openings (history.take (time + 1)) < levelLimit) ∧
      (∀ time other level, HandsOut start history time level →
        HandsOut start history other level →
        resetsBefore history time = resetsBefore history other → time = other) ∧
      ∀ time entry, responses[time]? = some (.inserted entry) →
        ∃ opening ≤ time, HandsOut start history opening entry.level ∧
          resetsBefore history opening = resetsBefore history time ∧
          inside? 0 ((responses.take time).drop opening) = some 0 ∧
          ∀ other, HandsOut start history other entry.level →
            resetsBefore history other = resetsBefore history time → other = opening := by
  obtain ⟨-, -, rfl⟩ := create_eq_done_iff.mp hcreate
  have hunique {time other level : Nat}
      (htime : HandsOut (blank capacity allocator).opened history time level)
      (hother : HandsOut (blank capacity allocator).opened history other level)
      (hresets : resetsBefore history time = resetsBefore history other) : time = other := by
    obtain ⟨hopens, hlevel⟩ := (handsOut_iff hrun).mp htime
    obtain ⟨hopens', hlevel'⟩ := (handsOut_iff hrun).mp hother
    exact eq_of_openings_eq hopens hopens' hresets (hlevel.symm.trans hlevel')
  refine ⟨⟨(handsOut_iff hrun).mpr ⟨trivial, rfl⟩, fun time hreset => ?_⟩, fun time hopen => ?_,
    fun _ _ _ => hunique, fun time entry hinserted => ?_⟩
  · exact (handsOut_iff hrun).mpr ⟨.inr hreset, (openings_take_of_reset hreset).symm⟩
  · obtain ⟨hanswer, hleft⟩ := response_of_openScope hrun hopen
    exact ⟨hanswer, (handsOut_iff hrun).mpr ⟨.inl hopen, rfl⟩, hleft⟩
  · obtain ⟨opening, hbefore, hhanded, hresets, hinnermost⟩ :=
      exists_handsOut_of_inserted hrun hinserted
    refine ⟨opening, hbefore, hhanded, hresets, hinnermost, fun other hother hother' => ?_⟩
    exact hunique hother hhanded (hother'.trans hresets.symm)

/-- A root that is closed, closings and declarations without a scope, scopes opened again, a reset,
    and two scopes after it: levels 1 and 2 are handed out on either side of the reset, and what is
    declared after it belongs to the scope opened last. -/
theorem levels_of_run_reopened :
    let history : List Operation :=
      [.closeScope, .closeScope, .insert "x" .int, .openScope, .closeScope, .openScope,
        .insert "x" .int, .reset, .openScope, .closeScope, .openScope, .insert "x" .char]
    ∃ (created events : List Event) (start last : Table Rationed) (responses : List Response),
      create 1 { maxSlots := 2 } = .done created start ∧
        start.run history = .done events (responses, last) ∧
        responses[5]? = some (.opened 2) ∧ HandsOut start history 6 2 ∧
        HandsOut start history 8 0 ∧ responses[10]? = some (.opened 2) ∧
        HandsOut start history 11 2 ∧
        ∃ opening ≤ 11, HandsOut start history opening 2 ∧
          resetsBefore history opening = resetsBefore history 11 ∧
          ∀ other, HandsOut start history other 2 →
            resetsBefore history other = resetsBefore history 11 → other = opening := by
  intro history
  have hcreate : create 1 ({ maxSlots := 2 } : Rationed) = .done _ _ := rfl
  have hrun : (blank 1 ({ maxSlots := 2 } : Rationed)).opened.run history = .done _ (_, _) := rfl
  obtain ⟨⟨-, hroots⟩, hopened, -, hentries⟩ := levels_of_run hcreate hrun
  obtain ⟨hfirst, hfirst', -⟩ := hopened 5 rfl
  obtain ⟨hsecond, hsecond', -⟩ := hopened 10 rfl
  obtain ⟨opening, hbefore, hhanded, hresets, -, hunique⟩ := hentries 11 ⟨"x", .char, 2⟩ rfl
  exact ⟨_, _, _, _, _, hcreate, hrun, hfirst, hfirst', hroots 7 rfl, hsecond, hsecond', opening,
    hbefore, hhanded, hresets, hunique⟩

end Table

end Frontend
