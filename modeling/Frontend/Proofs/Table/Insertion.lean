import Frontend.Allocator.Rationed
import Frontend.Proofs.Table.Capacity
import Frontend.Proofs.Table.Declarations

namespace Frontend

/-!
# Insertions

What an insertion comes to and when.  It is put to several tests, one after the other, and the first
one it fails decides; nothing is changed before it has passed all of them.

* `Scope.IsDenied` — a full scope that does not get more slots;
* `Scope.withRoom`, `Scope.askForRoom` — the scope with room made in it, and the allocator then;
* `Table.insert_eq_done_iff`, `Table.insert_eq_aborted_iff` — how an insertion ends;
* `Table.Effect.lookup_insert` — a new entry is found under its name, and hides no other;
* `Table.insert_outcome` — all of this, in any table that is ever reached.
-/

/-! ### Making room -/

namespace Scope

variable {σ : Type} [Allocator σ]

/-- Whether a scope has no slot for one more entry and does not get one: all are taken, and more are
    refused by the allocator or are too many to be reserved. -/
def IsDenied (scope : Scope) (allocator : σ) : Prop :=
  scope.count = scope.capacity ∧
    ¬ ((Allocator.answer allocator scope.growth).1 = .granted ∧ scope.grown.capacity < slotLimit)

instance (scope : Scope) (allocator : σ) : Decidable (scope.IsDenied allocator) :=
  inferInstanceAs (Decidable (_ ∧ ¬ (_ ∧ _)))

/-- The scope with a slot for one more entry: it has been grown if it was full. -/
def withRoom (scope : Scope) : Scope :=
  if scope.count = scope.capacity then scope.grown else scope

/-- The allocator after a scope has made room, or tried to: it has been asked if the scope was
    full. -/
def askForRoom (scope : Scope) (allocator : σ) : σ :=
  if scope.count = scope.capacity then (Allocator.answer allocator scope.growth).2 else allocator

/-- What has room made in it is a scope with the same entries on the same level, and its slots have
    been doubled only if all were taken. -/
theorem withRoom_eq (scope : Scope) :
    scope.withRoom =
      { scope with
        capacity :=
          if scope.count = scope.capacity then max 1 (2 * scope.capacity)
          else scope.capacity } := by
  unfold withRoom
  split <;> rfl

/-- In a scope that fits, room is made unless it is denied. -/
theorem Fits.makeRoom_eq_ite {scope : Scope} (h : scope.Fits) (before : σ) :
    scope.makeRoom before =
      (if scope.IsDenied before then none else some scope.withRoom, scope.askForRoom before) := by
  obtain ⟨room, after, hroom⟩ := scope.exists_room before
  rw [h.makeRoom_eq hroom]
  cases hroom with
  | free hfree => simp [IsDenied, withRoom, askForRoom, hfree]
  | grown hfull hanswer hreserved =>
    simp [IsDenied, withRoom, askForRoom, hfull, hanswer, hreserved]
  | refused hfull hanswer hrefused => simp [IsDenied, askForRoom, hfull, hanswer, hrefused]

theorem Fits.makeRoom_eq_none_iff {scope : Scope} (h : scope.Fits) {before after : σ} :
    scope.makeRoom before = (none, after) ↔
      scope.IsDenied before ∧ scope.askForRoom before = after := by
  rw [h.makeRoom_eq_ite]
  by_cases hdenied : scope.IsDenied before <;> simp [hdenied]

theorem Fits.makeRoom_eq_some_iff {scope roomy : Scope} (h : scope.Fits) {before after : σ} :
    scope.makeRoom before = (some roomy, after) ↔
      ¬ scope.IsDenied before ∧ scope.withRoom = roomy ∧ scope.askForRoom before = after := by
  rw [h.makeRoom_eq_ite]
  by_cases hdenied : scope.IsDenied before <;> simp [hdenied]

end Scope

/-! ### How an insertion ends -/

/-- The response that tells what an insertion has answered. -/
def Response.ofInsertion : Except TableError Entry → Response
  | .ok entry => .inserted entry
  | .error error => .refused error

theorem Response.ofInsertion_inj {first second : Except TableError Entry} :
    ofInsertion first = ofInsertion second ↔ first = second := by
  cases first <;> cases second <;> simp [ofInsertion]

namespace Table

variable {σ : Type} [Allocator σ] {table next : Table σ} {name : String} {type : DataType}
  {events : List Event}

/-- An insertion is the operation of that name, without the wording of its response. -/
theorem apply_insert (table : Table σ) (name : String) (type : DataType) :
    table.apply (.insert name type) =
      table.insert name type >>= fun result => .done [] (.ofInsertion result.1, result.2) := by
  cases hinsert : table.insert name type with
  | aborted events cause => simp [apply, hinsert]
  | done events result =>
    obtain ⟨answer, next⟩ := result
    cases answer <;> simp [apply, hinsert, Response.ofInsertion]

/-- So it ends as the effects of that operation say. -/
theorem insert_eq_done_iff {answer : Except TableError Entry} :
    table.insert name type = .done events (answer, next) ↔
      Effect table (.insert name type) events (.ofInsertion answer) next := by
  rw [← apply_eq_done_iff, apply_insert]
  cases hinsert : table.insert name type with
  | aborted reported cause => simp
  | done reported result =>
    obtain ⟨given, after⟩ := result
    simp [Response.ofInsertion_inj]

/-- **An insertion is fatal in one way only**: all is well with the name and with the scope, and
    then the entry itself is refused. -/
theorem insert_eq_aborted_iff (hfits : table.Fits) {cause : Fatal} :
    table.insert name type = .aborted events cause ↔
      events = [] ∧ cause = .entryRefused name ∧
        ∃ scope outer, table.scopes = scope :: outer ∧ scope.lookup name = none ∧
          ¬ scope.IsDenied table.allocator ∧
          (Allocator.answer (scope.askForRoom table.allocator) (.entry name.utf8ByteSize)).1 ≠
            .granted := by
  cases hscopes : table.scopes with
  | nil => simp [insert, hscopes]
  | cons scope outer =>
    cases hheld : scope.lookup name with
    | some entry => simp [insert, hscopes, hheld]
    | none =>
      have hroom := (hfits.current hscopes).makeRoom_eq_ite table.allocator
      by_cases hdenied : scope.IsDenied table.allocator
      · simp [insert, hscopes, hheld, hroom, hdenied]
      · -- Only here does it come to the entry.
        rw [if_neg hdenied] at hroom
        rcases hentry : Allocator.answer (scope.askForRoom table.allocator)
            (.entry name.utf8ByteSize) with ⟨reply, allocator⟩
        cases reply with
        | granted => simp [insert, hscopes, hheld, hroom, hentry]
        | refused requested =>
          simp [insert, hscopes, hheld, hroom, hdenied, hentry, @eq_comm _ cause]

/-! ### When it ends so -/

/-- Where no scope is open, there is no declaring. -/
theorem insert_noActiveScope_iff :
    (∃ events next, table.insert name type = .done events (.error .noActiveScope, next)) ↔
      table.scopes = [] := by
  constructor
  · rintro ⟨events, next, hinsert⟩
    cases insert_eq_done_iff.mp hinsert with
    | nowhereToInsert hscopes => exact hscopes
  · intro hscopes
    exact ⟨_, _, insert_eq_done_iff.mpr (.nowhereToInsert hscopes)⟩

/-- A name that the innermost scope holds is refused, whatever else is the matter. -/
theorem insert_redeclaration_iff {held : String} {level : Nat} :
    (∃ events next,
        table.insert name type = .done events (.error (.redeclaration held level), next)) ↔
      held = name ∧ table.currentLevel? = some level ∧ table.lookupCurrent name ≠ none := by
  constructor
  · rintro ⟨events, next, hinsert⟩
    cases insert_eq_done_iff.mp hinsert with
    | redeclared hscopes hheld =>
      exact ⟨rfl, by simp [currentLevel?, current?, hscopes],
        by simpa [lookupCurrent, current?, hscopes] using hheld⟩
  · rintro ⟨rfl, hlevel, hheld⟩
    cases hscopes : table.scopes with
    | nil => simp [currentLevel?, current?, hscopes] at hlevel
    | cons scope outer =>
      simp only [currentLevel?, lookupCurrent, current?, hscopes, List.head?_cons, Option.map_some,
        Option.some.injEq, Option.bind_some] at hlevel hheld
      subst hlevel
      exact ⟨_, _, insert_eq_done_iff.mpr (.redeclared hscopes hheld)⟩

/-- A name that is new to a scope without room is refused for that. -/
theorem insert_growthRefused_iff (hfits : table.Fits) {level capacity : Nat} :
    (∃ events next,
        table.insert name type = .done events (.error (.growthRefused level capacity), next)) ↔
      ∃ scope outer, table.scopes = scope :: outer ∧ scope.level = level ∧
        scope.capacity = capacity ∧ scope.lookup name = none ∧
        scope.IsDenied table.allocator := by
  constructor
  · rintro ⟨events, next, hinsert⟩
    cases insert_eq_done_iff.mp hinsert with
    | growthRefused hscopes hnew hroom =>
      obtain ⟨hdenied, -⟩ := (hfits.current hscopes).makeRoom_eq_none_iff.mp hroom
      exact ⟨_, _, hscopes, rfl, rfl, hnew, hdenied⟩
  · rintro ⟨scope, outer, hscopes, rfl, rfl, hnew, hdenied⟩
    have hroom := (hfits.current hscopes).makeRoom_eq_none_iff.mpr ⟨hdenied, rfl⟩
    exact ⟨_, _, insert_eq_done_iff.mpr (.growthRefused hscopes hnew hroom)⟩

/-- **A name is declared where nothing stands against it**, and the table is told in full. -/
theorem Effect.inserted_iff (hfits : table.Fits) {entry : Entry} :
    (∃ events, Effect table (.insert name type) events (.inserted entry) next) ↔
      ∃ scope outer, table.scopes = scope :: outer ∧ scope.lookup name = none ∧
        ¬ scope.IsDenied table.allocator ∧
        (Allocator.answer (scope.askForRoom table.allocator) (.entry name.utf8ByteSize)).1 =
          .granted ∧
        entry = { name, type, level := scope.level } ∧
        next = { table with
          scopes := scope.withRoom.add entry :: outer
          allocator :=
            (Allocator.answer (scope.askForRoom table.allocator)
              (.entry name.utf8ByteSize)).2 } := by
  constructor
  · rintro ⟨events, heffect⟩
    cases heffect with
    | inserted hscopes hnew hroom hentry =>
      obtain ⟨hdenied, rfl, rfl⟩ := (hfits.current hscopes).makeRoom_eq_some_iff.mp hroom
      exact ⟨_, _, hscopes, hnew, hdenied, by rw [hentry], rfl, by rw [hentry]⟩
  · rintro ⟨scope, outer, hscopes, hnew, hdenied, hgranted, rfl, rfl⟩
    have hroom := (hfits.current hscopes).makeRoom_eq_some_iff.mpr ⟨hdenied, rfl, rfl⟩
    exact ⟨_, .inserted hscopes hnew hroom (Prod.ext hgranted rfl)⟩

/-! ### What it leaves behind -/

/-- What is refused leaves every scope as it was, and the next level. -/
theorem Effect.scopes_of_refused {operation : Operation} {error : TableError}
    (heffect : Effect table operation events (.refused error) next) :
    next.scopes = table.scopes ∧ next.nextLevel = table.nextLevel ∧
      next.initialCapacity = table.initialCapacity := by
  cases heffect with
  | nothingToClose | nowhereToInsert | redeclared | growthRefused => exact ⟨rfl, rfl, rfl⟩

/-- **Declaring a name changes what is found under that name and nothing else**, from the innermost
    scope out and in it alone. -/
theorem Effect.lookup_insert {entry : Entry}
    (heffect : Effect table (.insert name type) events (.inserted entry) next) (other : String) :
    next.lookup other = (if other = name then some entry else table.lookup other) ∧
      next.lookupCurrent other =
        if other = name then some entry else table.lookupCurrent other := by
  cases heffect with
  | inserted hscopes hnew hroom hentry =>
    obtain ⟨-, -, hentries, -⟩ := Scope.of_makeRoom_eq_some hroom
    rename_i scope roomy outer _ _
    have hroomy : roomy.lookup other = scope.lookup other := by
      rw [Scope.lookup, hentries]
      rfl
    constructor
    · rw [lookup, lookup, hscopes, findSome?_add hnew hentries]
      by_cases hname : other = name
      · simp [hname, Option.filter_some]
      · simp [hname, Ne.symm hname, Option.filter_some]
    · rw [lookupCurrent, lookupCurrent, current?, current?, hscopes]
      show (roomy.add _).lookup other = if other = name then _ else scope.lookup other
      rw [Scope.lookup_add, hroomy]
      by_cases hname : other = name
      · simp [hname, hnew]
      · simp [hname, Ne.symm hname]

/-! ### Reachable tables -/

/-- **What comes of an insertion.**  In every table that is ever reached, for every name and type
    and whatever the allocator answers, an insertion comes to this:

    * without an open scope it is refused for that;
    * where the innermost scope holds the name it is refused for that, be the scope full or not, and
      whatever scopes outside hold;
    * where that scope is full and does not get more slots it is refused for that;
    * where then the entry is not granted it is fatal;
    * and otherwise the name is declared.

    Refused, it leaves every scope as it was.  Otherwise the new entry is the last of the innermost
    scope, which has changed in nothing else but that its slots have been doubled if it was full;
    the entry is what is found under its name from then on, and nothing else is found
    differently. -/
theorem insert_outcome {history : List Operation} (hreached : table.ReachedBy history)
    (name : String) (type : DataType) :
    ((∃ events next, table.insert name type = .done events (.error .noActiveScope, next)) ↔
      table.scopes = []) ∧
    (∀ held level,
      (∃ events next,
        table.insert name type = .done events (.error (.redeclaration held level), next)) ↔
      held = name ∧ table.currentLevel? = some level ∧ table.lookupCurrent name ≠ none) ∧
    (∀ level capacity,
      (∃ events next,
        table.insert name type = .done events (.error (.growthRefused level capacity), next)) ↔
      ∃ scope outer, table.scopes = scope :: outer ∧ scope.level = level ∧
        scope.capacity = capacity ∧ scope.lookup name = none ∧
        scope.IsDenied table.allocator) ∧
    (∀ events cause, table.insert name type = .aborted events cause ↔
      events = [] ∧ cause = .entryRefused name ∧
        ∃ scope outer, table.scopes = scope :: outer ∧ scope.lookup name = none ∧
          ¬ scope.IsDenied table.allocator ∧
          (Allocator.answer (scope.askForRoom table.allocator) (.entry name.utf8ByteSize)).1 ≠
            .granted) ∧
    ((∃ events entry next, table.insert name type = .done events (.ok entry, next)) ↔
      ∃ scope outer, table.scopes = scope :: outer ∧ scope.lookup name = none ∧
        ¬ scope.IsDenied table.allocator ∧
        (Allocator.answer (scope.askForRoom table.allocator) (.entry name.utf8ByteSize)).1 =
          .granted) ∧
    (∀ events error next, table.insert name type = .done events (.error error, next) →
      next.scopes = table.scopes ∧ next.nextLevel = table.nextLevel ∧
        next.initialCapacity = table.initialCapacity) ∧
    (∀ events entry next, table.insert name type = .done events (.ok entry, next) →
      next.nextLevel = table.nextLevel ∧ next.initialCapacity = table.initialCapacity ∧
        (∃ scope outer, table.scopes = scope :: outer ∧
          entry = { name, type, level := scope.level } ∧
          next.scopes =
            { scope with
              entries := scope.entries ++ [entry]
              capacity :=
                if scope.count = scope.capacity then max 1 (2 * scope.capacity)
                else scope.capacity } :: outer) ∧
        ∀ other,
          next.lookup other = (if other = name then some entry else table.lookup other) ∧
            next.lookupCurrent other =
              if other = name then some entry else table.lookupCurrent other) := by
  have hfits : table.Fits := fits_of_reachedBy hreached
  refine ⟨insert_noActiveScope_iff, fun held level => insert_redeclaration_iff,
    fun level capacity => insert_growthRefused_iff hfits,
    fun events cause => insert_eq_aborted_iff hfits, ?_, ?_, ?_⟩
  · constructor
    · rintro ⟨events, entry, next, hinsert⟩
      obtain ⟨scope, outer, hscopes, hnew, hdenied, hgranted, -⟩ :=
        (Effect.inserted_iff hfits).mp ⟨events, insert_eq_done_iff.mp hinsert⟩
      exact ⟨scope, outer, hscopes, hnew, hdenied, hgranted⟩
    · rintro ⟨scope, outer, hscopes, hnew, hdenied, hgranted⟩
      obtain ⟨events, heffect⟩ := (Effect.inserted_iff hfits).mpr
        ⟨scope, outer, hscopes, hnew, hdenied, hgranted, rfl, rfl⟩
      exact ⟨events, _, _, insert_eq_done_iff.mpr heffect⟩
  · intro events error next hinsert
    exact (insert_eq_done_iff.mp hinsert).scopes_of_refused
  · intro events entry next hinsert
    have heffect := insert_eq_done_iff.mp hinsert
    obtain ⟨scope, outer, hscopes, -, -, -, hentry, rfl⟩ :=
      (Effect.inserted_iff hfits).mp ⟨events, heffect⟩
    refine ⟨rfl, rfl, ⟨scope, outer, hscopes, hentry, ?_⟩, heffect.lookup_insert⟩
    rw [Scope.withRoom_eq, Scope.add]

/-- An inner scope that is full and may not grow: the name it holds is refused as that, and a name
    that only the root holds is refused for want of room, with nothing changed by either. -/
theorem insert_outcome_in_full_scope :
    let table : Table Rationed :=
      { scopes := [⟨1, some 0, 1, [⟨"y", .char, 1⟩]⟩, ⟨0, none, 1, [⟨"x", .int, 0⟩]⟩]
        nextLevel := 2, initialCapacity := 1
        allocator := { maxSlots := 4, growths := [false] } }
    table.ReachedBy [.insert "x" .int, .openScope, .insert "y" .char] ∧
      (∃ events next, table.insert "y" .int =
        .done events (.error (.redeclaration "y" 1), next) ∧ next.scopes = table.scopes) ∧
      (∃ events next, table.insert "x" .int =
        .done events (.error (.growthRefused 1 1), next) ∧ next.scopes = table.scopes) := by
  intro table
  have hreached : table.ReachedBy [.insert "x" .int, .openScope, .insert "y" .char] :=
    ⟨1, { maxSlots := 4, growths := [false] }, _, _, _, _, rfl, rfl⟩
  obtain ⟨-, hheld, -, -, -, hkept, -⟩ := insert_outcome hreached "y" .int
  obtain ⟨-, -, hdenied, -, -, hkept', -⟩ := insert_outcome hreached "x" .int
  obtain ⟨events, next, hinsert⟩ := (hheld "y" 1).mpr ⟨rfl, rfl, by decide⟩
  obtain ⟨events', next', hinsert'⟩ :=
    (hdenied 1 1).mpr ⟨_, _, rfl, rfl, rfl, by decide, by decide⟩
  exact ⟨hreached, ⟨events, next, hinsert, (hkept _ _ _ hinsert).1⟩,
    events', next', hinsert', (hkept' _ _ _ hinsert').1⟩

end Table

end Frontend
