import Frontend.Table.History

namespace Frontend

/-!
# What one operation does

Every way an operation on a symbol table can come to an end, as one inductive relation.

* `Table.blank` — a table before its first scope;
* `Table.CanOpen`, `Table.opened` — when a scope can be opened, and the table it leaves;
* `Table.Effect` — the relation, one constructor for each outcome of each operation;
* `Table.apply_eq_done_iff` — an operation ends without a fatal condition exactly as `Effect` says.

The proofs about tables go by cases on `Effect`; none of them unfolds an operation again.
-/

/-- What is reported when a scope is closed: a warning first if it was a root. -/
def Scope.closingEvents (scope : Scope) : List Event :=
  (if scope.enclosing.isNone then [.rootClosed scope.level] else []) ++
    [.closed scope.level scope.count]

theorem Reply.isGranted_iff {reply : Reply} : reply.isGranted = true ↔ reply = .granted := by
  cases reply <;> simp

namespace Table

variable {σ : Type}

/-- A table whose scopes start with `capacity` slots, before its first scope is opened. -/
def blank (capacity : Nat) (allocator : σ) : Table σ :=
  { scopes := [], nextLevel := 0, initialCapacity := capacity, allocator }

variable [Allocator σ]

/-! ### Opening -/

/-- Whether a scope can be opened: a level is left, and the first slots are granted and fit. -/
def CanOpen (table : Table σ) : Prop :=
  table.nextLevel < levelLimit ∧
    (Allocator.answer table.allocator (.scope table.initialCapacity)).1 = .granted ∧
    table.initialCapacity < Scope.slotLimit

/-- The table with a new innermost scope. -/
def opened (table : Table σ) : Table σ :=
  { table with
    scopes := .fresh table.nextLevel table.currentLevel? table.initialCapacity :: table.scopes
    nextLevel := table.nextLevel + 1
    allocator := (Allocator.answer table.allocator (.scope table.initialCapacity)).2 }

@[simp] theorem scopes_opened (table : Table σ) :
    table.opened.scopes =
      .fresh table.nextLevel table.currentLevel? table.initialCapacity :: table.scopes := rfl

/-- A scope that can be opened is. -/
theorem openScope_of_canOpen {table : Table σ} (hcan : table.CanOpen) :
    table.openScope = .done [.opened table.nextLevel] (table.nextLevel, table.opened) := by
  obtain ⟨hlevel, hgranted, hslots⟩ := hcan
  simp [openScope, opened, hlevel, hgranted, hslots]

/-- Where no scope can be opened, trying to open one ends the program. -/
theorem openScope_of_not_canOpen {table : Table σ} (hcannot : ¬ table.CanOpen) :
    ∃ cause, table.openScope = .aborted [] cause := by
  unfold openScope
  by_cases hlevel : table.nextLevel < levelLimit
  · refine ⟨.scopeRefused table.nextLevel table.initialCapacity, ?_⟩
    have hrefused : ¬ ((Allocator.answer table.allocator (.scope table.initialCapacity)).1 =
        .granted ∧ table.initialCapacity < Scope.slotLimit) :=
      fun h => hcannot ⟨hlevel, h⟩
    simp [hlevel, hrefused, Reply.isGranted_iff]
  · exact ⟨.levelsExhausted, by simp [hlevel]⟩

/-- Opening a scope and then reporting `event`, as creating and emptying a table both do. -/
theorem openRoot_eq_done_iff {table next : Table σ} {event : Event} {events : List Event} :
    (do
      let (_, fresh) ← table.openScope
      Outcome.report event
      return fresh) = .done events next ↔
      table.CanOpen ∧ events = [.opened table.nextLevel, event] ∧ next = table.opened := by
  by_cases hcan : table.CanOpen
  · simp [openScope_of_canOpen hcan, hcan, Outcome.report, eq_comm]
  · obtain ⟨cause, habort⟩ := openScope_of_not_canOpen hcan
    simp [habort, hcan]

/-- A table is created by opening a scope in a blank one. -/
theorem create_eq_done_iff {capacity : Nat} {allocator : σ} {events : List Event}
    {start : Table σ} :
    create capacity allocator = .done events start ↔
      (blank capacity allocator).CanOpen ∧ events = [.opened 0, .started] ∧
        start = (blank capacity allocator).opened :=
  openRoot_eq_done_iff

/-- A table is emptied by opening a scope in a blank one, too. -/
theorem reset_eq_done_iff {table next : Table σ} {events : List Event} :
    table.reset = .done events next ↔
      (blank table.initialCapacity table.allocator).CanOpen ∧
        events = [.opened 0, .restarted] ∧
        next = (blank table.initialCapacity table.allocator).opened :=
  openRoot_eq_done_iff

/-! ### The outcomes of an operation -/

/-- Every way an operation on a table can come to an end: the events it reports, the response, and
    the table it leaves.  Fatal conditions are left out. -/
inductive Effect (table : Table σ) : Operation → List Event → Response → Table σ → Prop
  | opened (hcan : table.CanOpen) :
      Effect table .openScope [.opened table.nextLevel] (.opened table.nextLevel) table.opened
  | nothingToClose (hscopes : table.scopes = []) :
      Effect table .closeScope [.nothingToClose] (.refused .noActiveScope) table
  | closed {scope : Scope} {outer : List Scope} (hscopes : table.scopes = scope :: outer) :
      Effect table .closeScope scope.closingEvents (.closed scope.level)
        { table with scopes := outer }
  | nowhereToInsert {name : String} {type : DataType} (hscopes : table.scopes = []) :
      Effect table (.insert name type) [.nowhereToInsert name] (.refused .noActiveScope) table
  | redeclared {name : String} {type : DataType} {scope : Scope} {outer : List Scope}
      (hscopes : table.scopes = scope :: outer) (hheld : scope.lookup name ≠ none) :
      Effect table (.insert name type) [] (.refused (.redeclaration name scope.level)) table
  | growthRefused {name : String} {type : DataType} {scope : Scope} {outer : List Scope}
      {allocator : σ} (hscopes : table.scopes = scope :: outer)
      (hnew : scope.lookup name = none)
      (hroom : scope.makeRoom table.allocator = (none, allocator)) :
      Effect table (.insert name type)
        [.growthRefused scope.level scope.capacity scope.doubled]
        (.refused (.growthRefused scope.level scope.capacity)) { table with allocator }
  | inserted {name : String} {type : DataType} {scope roomy : Scope} {outer : List Scope}
      {roomAllocator allocator : σ} (hscopes : table.scopes = scope :: outer)
      (hnew : scope.lookup name = none)
      (hroom : scope.makeRoom table.allocator = (some roomy, roomAllocator))
      (hentry : Allocator.answer roomAllocator (.entry name.utf8ByteSize) =
        (.granted, allocator)) :
      Effect table (.insert name type) [.inserted name type scope.level]
        (.inserted { name, type, level := scope.level })
        { table with
          scopes := roomy.add { name, type, level := scope.level } :: outer, allocator }
  | restarted (hcan : (blank table.initialCapacity table.allocator).CanOpen) :
      Effect table .reset [.opened 0, .restarted] .restarted
        (blank table.initialCapacity table.allocator).opened

/-- What an operation ends in, if it ends, is one of its effects. -/
theorem effect_of_apply {table next : Table σ} {operation : Operation} {events : List Event}
    {response : Response} (h : table.apply operation = .done events (response, next)) :
    Effect table operation events response next := by
  -- In each case the call is parted from the wording of its response before it is looked into.
  cases operation with
  | openScope =>
    obtain ⟨_, ⟨level, fresh⟩, _, hopen, hreturn, rfl⟩ := Outcome.bind_eq_done_iff.mp h
    cases hreturn
    by_cases hcan : table.CanOpen
    · rw [openScope_of_canOpen hcan] at hopen
      cases hopen
      exact .opened hcan
    · obtain ⟨cause, habort⟩ := openScope_of_not_canOpen hcan
      rw [habort] at hopen
      cases hopen
  | closeScope =>
    obtain ⟨_, ⟨answer, _⟩, _, hclose, hreturn, rfl⟩ := Outcome.bind_eq_done_iff.mp h
    cases hscopes : table.scopes with
    | nil =>
      simp only [closeScope, hscopes] at hclose
      cases hclose
      cases hreturn
      exact .nothingToClose hscopes
    | cons scope outer =>
      simp only [closeScope, hscopes] at hclose
      cases hclose
      cases hreturn
      rw [List.append_nil]
      exact .closed hscopes
  | insert name type =>
    obtain ⟨_, ⟨answer, _⟩, _, hinsert, hreturn, rfl⟩ := Outcome.bind_eq_done_iff.mp h
    cases hscopes : table.scopes with
    | nil =>
      simp only [insert, hscopes] at hinsert
      cases hinsert
      cases hreturn
      exact .nowhereToInsert hscopes
    | cons scope outer =>
      cases hheld : scope.lookup name with
      | some entry =>
        simp only [insert, hscopes, hheld, Option.isSome_some, if_true] at hinsert
        cases hinsert
        cases hreturn
        exact .redeclared hscopes (by simp [hheld])
      | none =>
        rcases hroom : scope.makeRoom table.allocator with ⟨room, roomAllocator⟩
        simp only [insert, hscopes, hheld, hroom, Option.isSome_none, Bool.false_eq_true,
          if_false] at hinsert
        cases room with
        | none =>
          cases hinsert
          cases hreturn
          -- The scopes are those of the table, only the allocator has moved on.
          rw [← hscopes, List.append_nil]
          exact .growthRefused hscopes hheld hroom
        | some roomy =>
          -- Room has been made; what is left is the allocator's answer about the entry itself.
          rcases hentry : Allocator.answer roomAllocator (.entry name.utf8ByteSize) with
            ⟨reply, allocator⟩
          simp only [hentry] at hinsert
          cases reply with
          | granted =>
            cases hinsert
            cases hreturn
            exact .inserted hscopes hheld hroom hentry
          | refused requested => cases hinsert
  | reset =>
    obtain ⟨_, fresh, _, hreset, hreturn, rfl⟩ := Outcome.bind_eq_done_iff.mp h
    cases hreturn
    obtain ⟨hcan, rfl, rfl⟩ := reset_eq_done_iff.mp hreset
    exact .restarted hcan

/-- Each effect is what the operation ends in, so `Effect` says neither too little nor too much. -/
theorem apply_eq_done_iff {table next : Table σ} {operation : Operation} {events : List Event}
    {response : Response} :
    table.apply operation = .done events (response, next) ↔
      Effect table operation events response next := by
  refine ⟨effect_of_apply, fun heffect => ?_⟩
  cases heffect with
  | opened hcan => simp [apply, openScope_of_canOpen hcan]
  | nothingToClose hscopes => simp [apply, closeScope, hscopes]
  | closed hscopes => simp [apply, closeScope, hscopes, Scope.closingEvents]
  | nowhereToInsert hscopes => simp [apply, insert, hscopes]
  | redeclared hscopes hheld =>
    simp [apply, insert, hscopes, Option.isSome_iff_ne_none.mpr hheld]
  | growthRefused hscopes hnew hroom => simp [apply, insert, hscopes, hnew, hroom]
  | inserted hscopes hnew hroom hentry =>
    simp [apply, insert, hscopes, hnew, hroom, hentry]
  | restarted hcan => simp [apply, reset_eq_done_iff.mpr ⟨hcan, rfl, rfl⟩]

/-- No operation changes the capacity that new scopes get. -/
theorem Effect.initialCapacity {table next : Table σ} {operation : Operation}
    {events : List Event} {response : Response}
    (heffect : Effect table operation events response next) :
    next.initialCapacity = table.initialCapacity := by
  cases heffect <;> rfl

end Table

end Frontend
