import Frontend.Proofs.Table.Lifetime

namespace Frontend

/-!
# Live declarations

A lookup in the open scopes and a search through the history of a table for the latest declaration
that is still in force come to the same.

* `LiveDeclaration` — a declaration in a history whose scope is still open at its end;
* `latestLive` — the search, from the end of a history back;
* `latestLive_snoc` — how one more turn changes what the search finds;
* `Table.findSome?_drop_of_leadsTo` — the search finds what looking through the scopes finds;
* `Table.lookup_eq_latest_live` — so a lookup finds the latest declaration in force.

The search is stated for scopes with at least a given number of others inside them: a closing lets
the search go on one scope further out, and an opening one scope further in.
-/

/-! ### Declarations in a history -/

/-- The entry a turn declares: it is the one that was asked for. -/
def declared? : Turn → Option Entry
  | (.insert name type, .inserted entry) =>
    if entry.name = name ∧ entry.type = type then some entry else none
  | _ => none

theorem declared?_eq_some_iff {turn : Turn} {entry : Entry} :
    declared? turn = some entry ↔ turn = (.insert entry.name entry.type, .inserted entry) := by
  unfold declared?
  split
  · simp only [Option.ite_none_right_eq_some, Option.some.injEq, Prod.mk.injEq,
      Operation.insert.injEq, Response.inserted.injEq]
    constructor
    · rintro ⟨⟨rfl, rfl⟩, rfl⟩
      exact ⟨⟨rfl, rfl⟩, rfl⟩
    · rintro ⟨⟨rfl, rfl⟩, rfl⟩
      exact ⟨⟨rfl, rfl⟩, rfl⟩
  · rename_i hother
    simp only [reduceCtorEq, false_iff]
    rintro rfl
    exact hother _ _ _ rfl

/-- A declaration of `entry` in a history, with `later` being all that came after it: the scope
    that was declared in has neither been closed nor dropped since. -/
def LiveDeclaration (turns : List Turn) (entry : Entry) (later : List Turn) : Prop :=
  (∃ earlier, turns = earlier ++ (.insert entry.name entry.type, .inserted entry) :: later) ∧
    inside? 0 (later.map Prod.snd) ≠ none

/-- Whether a scope outlives some turns with at least `depth` scopes inside it at their end. -/
def outlives (depth : Nat) (later : List Turn) : Bool :=
  (inside? 0 (later.map Prod.snd)).any (depth ≤ ·)

/-- The latest declaration of `name` in a scope that is still open, with at least `depth` scopes
    inside it. -/
def latestLive (name : String) (depth : Nat) : List Turn → Option Entry
  | [] => none
  | turn :: later =>
    (latestLive name depth later).or
      (if outlives depth later then (declared? turn).filter (·.name == name) else none)

/-! ### One more turn -/

/-- The depth from which a search has to begin before a response to reach depth `depth` after it;
    `none` when nothing that was before is still open. -/
def Response.depthBefore? (depth : Nat) : Response → Option Nat
  | .opened _ => some (depth - 1)
  | .closed _ => some (depth + 1)
  | .restarted => none
  | .inserted _ | .refused _ => some depth

theorem outlives_snoc (depth : Nat) (later : List Turn) (turn : Turn) :
    outlives depth (later ++ [turn]) = (turn.2.depthBefore? depth).any (outlives · later) := by
  obtain ⟨operation, response⟩ := turn
  simp only [outlives, List.map_append, List.map_singleton, inside?_snoc]
  cases inside? 0 (later.map Prod.snd) with
  | none => cases response <;> rfl
  | some inside =>
    cases response with
    | opened level =>
      show decide (depth ≤ inside + 1) = decide (depth - 1 ≤ inside)
      rw [decide_eq_decide]
      omega
    | closed level => cases inside <;> simp [Response.inside?, Response.depthBefore?]
    | inserted entry => rfl
    | restarted => rfl
    | refused error => rfl

/-- One more turn is found itself if it declares the name; otherwise the search goes on from the
    depth that its response leads back to. -/
theorem latestLive_snoc (name : String) (depth : Nat) (turns : List Turn) (turn : Turn) :
    latestLive name depth (turns ++ [turn]) =
      (if depth = 0 then (declared? turn).filter (·.name == name) else none).or
        ((turn.2.depthBefore? depth).bind (latestLive name · turns)) := by
  induction turns with
  | nil =>
    cases turn.2.depthBefore? depth <;> simp [latestLive, outlives]
  | cons first rest ih =>
    rw [List.cons_append, latestLive, ih, outlives_snoc, Option.or_assoc]
    cases turn.2.depthBefore? depth with
    | none => simp
    | some before => rfl

/-! ### The search and the scopes -/

namespace Table

variable {σ : Type} [Allocator σ]

/-- A table with nothing but its root open holds no entry. -/
theorem findSome?_drop_opened_blank (capacity : Nat) (allocator : σ) (name : String)
    (depth : Nat) :
    ((blank capacity allocator).opened.scopes.drop depth).findSome? (·.lookup name) = none := by
  cases depth with
  | zero => rfl
  | succ depth =>
    rw [scopes_opened, List.drop_succ_cons]
    simp [blank]

/-- A new scope is looked through in vain. -/
theorem findSome?_drop_opened (table : Table σ) (name : String) (depth : Nat) :
    (table.opened.scopes.drop depth).findSome? (·.lookup name) =
      (table.scopes.drop (depth - 1)).findSome? (·.lookup name) := by
  cases depth with
  | zero => rfl
  | succ depth => rfl

/-- A new entry is found before everything else that has its name, and hides nothing else. -/
theorem findSome?_add {scope roomy : Scope} {outer : List Scope} {entry : Entry}
    (hnew : scope.lookup entry.name = none) (hentries : roomy.entries = scope.entries)
    (name : String) :
    (roomy.add entry :: outer).findSome? (·.lookup name) =
      ((some entry).filter (·.name == name)).or ((scope :: outer).findSome? (·.lookup name)) := by
  have hlookup : roomy.lookup name = scope.lookup name := by
    rw [Scope.lookup, hentries]
    rfl
  by_cases hname : entry.name = name
  · subst hname
    simp [Scope.lookup_add, hlookup, hnew, Option.filter_some]
  · simp [Scope.lookup_add, hlookup, hname, Option.filter_some, List.findSome?_cons]

/-- **The search through the history finds what a lookup finds**, from any depth on. -/
theorem findSome?_drop_of_leadsTo {capacity : Nat} {allocator : σ} {turns : List Turn}
    {events : List Event} {last : Table σ}
    (hrun : LeadsTo (blank capacity allocator).opened turns events last) (name : String)
    (depth : Nat) :
    (last.scopes.drop depth).findSome? (·.lookup name) = latestLive name depth turns := by
  -- Turns come last in both, and for any depth: a closing asks for what lay one deeper before it.
  induction hrun generalizing depth with
  | nil => exact findSome?_drop_opened_blank capacity allocator name depth
  | snoc _ heffect ih =>
    rename_i turn _
    obtain ⟨operation, response⟩ := turn
    rw [latestLive_snoc]
    cases heffect with
    | opened hcan =>
      rw [findSome?_drop_opened, ih]
      simp [declared?, Response.depthBefore?]
    | nothingToClose | nowhereToInsert | redeclared | growthRefused =>
      simp [declared?, Response.depthBefore?, ih]
    | closed hscopes =>
      -- With the closed scope still there, one more was passed over.
      have hdeeper := ih (depth + 1)
      rw [hscopes, List.drop_succ_cons] at hdeeper
      simp [declared?, Response.depthBefore?, hdeeper]
    | inserted hscopes hnew hroom hentry =>
      obtain ⟨-, -, hentries, -⟩ := Scope.of_makeRoom_eq_some hroom
      have hbefore := ih depth
      rw [hscopes] at hbefore
      cases depth with
      | zero =>
        rw [List.drop_zero] at hbefore ⊢
        rw [findSome?_add hnew hentries, hbefore]
        simp [declared?, Response.depthBefore?]
      | succ depth => simp [Response.depthBefore?, ← hbefore]
    | restarted hcan =>
      rw [findSome?_drop_opened_blank]
      simp [declared?, Response.depthBefore?]

end Table

/-! ### What the search finds -/

theorem outlives_zero_iff {later : List Turn} :
    outlives 0 later = true ↔ inside? 0 (later.map Prod.snd) ≠ none := by
  unfold outlives
  cases inside? 0 (later.map Prod.snd) <;> simp

/-- A live declaration in a history is its first turn or lies in the rest. -/
theorem liveDeclaration_cons {turn : Turn} {rest later : List Turn} {entry : Entry} :
    LiveDeclaration (turn :: rest) entry later ↔
      (declared? turn = some entry ∧ later = rest ∧ outlives 0 rest = true) ∨
        LiveDeclaration rest entry later := by
  rw [declared?_eq_some_iff, outlives_zero_iff]
  constructor
  · rintro ⟨⟨earlier, hturns⟩, hopen⟩
    cases earlier with
    | nil =>
      obtain ⟨rfl, rfl⟩ := List.cons.inj hturns
      exact .inl ⟨rfl, rfl, hopen⟩
    | cons first earlier =>
      obtain ⟨rfl, rfl⟩ := List.cons.inj hturns
      exact .inr ⟨⟨earlier, rfl⟩, hopen⟩
  · rintro (⟨rfl, rfl, hopen⟩ | ⟨⟨earlier, rfl⟩, hopen⟩)
    · exact ⟨⟨[], rfl⟩, hopen⟩
    · exact ⟨⟨turn :: earlier, rfl⟩, hopen⟩

/-- The search finds nothing exactly when no live declaration has the name. -/
theorem latestLive_eq_none_iff {name : String} {turns : List Turn} :
    latestLive name 0 turns = none ↔
      ∀ entry later, LiveDeclaration turns entry later → entry.name ≠ name := by
  induction turns with
  | nil => simp [latestLive, LiveDeclaration]
  | cons turn rest ih =>
    simp only [latestLive, Option.or_eq_none_iff, ih, liveDeclaration_cons]
    constructor
    · rintro ⟨hrest, hfirst⟩ entry later (⟨hdeclared, rfl, hopen⟩ | hlive)
      · simpa [hopen, hdeclared, Option.filter_some] using hfirst
      · exact hrest entry later hlive
    · intro h
      refine ⟨fun entry later hlive => h entry later (.inr hlive), ?_⟩
      cases hdeclared : declared? turn with
      | none => simp
      | some entry =>
        by_cases hopen : outlives 0 rest = true
        · have hname := h entry rest (.inl ⟨hdeclared, rfl, hopen⟩)
          simp [Option.filter_some, hname]
        · simp [hopen]

/-- What the search finds is live, and no later live declaration has the name. -/
theorem latestLive_eq_some_iff {name : String} {turns : List Turn} {entry : Entry} :
    latestLive name 0 turns = some entry ↔
      ∃ later, LiveDeclaration turns entry later ∧ entry.name = name ∧
        ∀ other after, LiveDeclaration later other after → other.name ≠ name := by
  induction turns with
  | nil => simp [latestLive, LiveDeclaration]
  | cons turn rest ih =>
    simp only [← latestLive_eq_none_iff] at ih ⊢
    simp only [latestLive, liveDeclaration_cons]
    cases hrest : latestLive name 0 rest with
    | some found =>
      -- The search does not get back to the first turn, and the first turn is not the latest.
      rw [hrest] at ih
      rw [Option.some_or, ih]
      constructor
      · rintro ⟨later, hlive, hname⟩
        exact ⟨later, .inr hlive, hname⟩
      · rintro ⟨later, ⟨-, rfl, -⟩ | hlive, hname, hlast⟩
        · simp [hrest] at hlast
        · exact ⟨later, hlive, hname, hlast⟩
    | none =>
      -- Nothing later has the name, so all depends on the first turn.
      rw [hrest] at ih
      rw [Option.none_or]
      constructor
      · intro hfound
        rw [Option.ite_none_right_eq_some, Option.filter_eq_some_iff, beq_iff_eq] at hfound
        obtain ⟨hopen, hdeclared, hname⟩ := hfound
        exact ⟨rest, .inl ⟨hdeclared, rfl, hopen⟩, hname, hrest⟩
      · rintro ⟨later, ⟨hdeclared, rfl, hopen⟩ | hlive, hname, hlast⟩
        · rw [if_pos hopen, hdeclared]
          simp [Option.filter_some, hname]
        · exact absurd (ih.mpr ⟨later, hlive, hname, hlast⟩) (by simp)

/-! ### Lookups -/

/-- **The innermost scope that has a name and the latest live declaration of it are the same
    thing.**  After any history, a lookup finds exactly the entry of the latest declaration of the
    name whose scope is still open, and nothing exactly when there is none. -/
theorem Table.lookup_eq_latest_live {σ : Type} [Allocator σ] {capacity : Nat} {allocator : σ}
    {created events : List Event} {start table : Table σ} {history : List Operation}
    {responses : List Response} (hcreate : create capacity allocator = .done created start)
    (hrun : start.run history = .done events (responses, table)) (name : String) :
    (∀ entry, table.lookup name = some entry ↔
      ∃ later, LiveDeclaration (history.zip responses) entry later ∧ entry.name = name ∧
        ∀ other after, LiveDeclaration later other after → other.name ≠ name) ∧
    (table.lookup name = none ↔
      ∀ entry later, LiveDeclaration (history.zip responses) entry later → entry.name ≠ name) := by
  obtain ⟨-, -, rfl⟩ := create_eq_done_iff.mp hcreate
  have hsearch : table.lookup name = latestLive name 0 (history.zip responses) :=
    findSome?_drop_of_leadsTo (leadsTo_of_run hrun) name 0
  rw [hsearch]
  exact ⟨fun entry => latestLive_eq_some_iff, latestLive_eq_none_iff⟩

/-- A name declared before a reset, then in the root, then in an inner scope that has been closed
    again, and a name declared in a scope that has been closed only. -/
theorem Table.lookup_after_shadowing :
    let history : List Operation :=
      [.insert "x" .void, .reset, .insert "x" .int, .openScope, .insert "x" .float,
        .insert "x" .char, .openScope, .insert "y" .int, .closeScope, .closeScope]
    ∃ (created events : List Event) (start table : Table Capped) (responses : List Response),
      create 1 (Capped.mk 2) = .done created start ∧
      start.run history = .done events (responses, table) ∧
      table.lookup "x" = some ⟨"x", .int, 0⟩ ∧ table.lookup "y" = none ∧
      (∃ later, LiveDeclaration (history.zip responses) ⟨"x", .int, 0⟩ later ∧
        ∀ other after, LiveDeclaration later other after → other.name ≠ "x") ∧
      ∀ entry later, LiveDeclaration (history.zip responses) entry later → entry.name ≠ "y" := by
  intro history
  have hcreate : create 1 (Capped.mk 2) = .done _ _ := rfl
  have hrun : (blank 1 (Capped.mk 2)).opened.run history = .done _ _ := rfl
  refine ⟨_, _, _, _, _, hcreate, hrun, rfl, rfl, ?_, ?_⟩
  · obtain ⟨later, hlive, -, hlatest⟩ :=
      ((lookup_eq_latest_live hcreate hrun "x").1 ⟨"x", .int, 0⟩).mp rfl
    exact ⟨later, hlive, hlatest⟩
  · exact (lookup_eq_latest_live hcreate hrun "y").2.mp rfl

end Frontend
