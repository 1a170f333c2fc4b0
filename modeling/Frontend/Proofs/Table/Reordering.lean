import Frontend.Proofs.Table.Lenient
import Frontend.Proofs.Table.Requests
import Mathlib.Logic.Function.Iterate

namespace Frontend

/-!
# Declarations in any order

Which of several names are declared in a scope may depend on the order in which they come, but how
many of them are does not.  On a lenient allocator it is told by the number of names that are new to
the scope, since each of these changes its size in the same way.

* `declaring` — the operations that declare some names;
* `Scope.size` — what decides whether there is room, and `nextSize` what one more new name makes
  of it;
* `Table.exists_run_declaring` — what declaring some names makes of the innermost scope;
* `Table.lookup_of_run_declaring` — what is found afterwards, if all of them are declared;
* `Table.declare_in_any_order` — so neither depends on their order.
-/

/-- The operations that declare some names, in this order. -/
def declaring (declarations : List (String × DataType)) : List Operation :=
  declarations.map fun declaration => .insert declaration.1 declaration.2

variable {σ : Type} [Allocator σ]

/-! ### Sizes -/

/-- How many entries a scope holds, and how many slots it has. -/
def Scope.size (scope : Scope) : Nat × Nat := (scope.count, scope.capacity)

/-- What the size of a scope is after one more name that is new to it.  It is what it was if all
    slots are taken and no more are to be had. -/
def nextSize (allocator : σ) : Nat × Nat → Nat × Nat
  | (count, capacity) =>
    let requested := max 1 (2 * capacity)
    if count ≠ capacity then (count + 1, capacity)
    else if (Allocator.answer allocator (.growth capacity requested)).1 = .granted ∧
        requested < Scope.slotLimit then (count + 1, requested)
    else (count, capacity)

namespace Scope

variable {scope : Scope} {allocator : σ}

theorem nextSize_of_isDenied (h : scope.IsDenied allocator) :
    nextSize allocator scope.size = scope.size := by
  obtain ⟨hfull, hdenied⟩ := h
  rw [size, nextSize, if_neg (not_not_intro hfull)]
  exact if_neg hdenied

/-- With room made for it, a scope holds one more entry. -/
theorem count_withRoom_add (scope : Scope) (entry : Entry) :
    (scope.withRoom.add entry).count = scope.count + 1 := by
  rw [count_add, withRoom_eq]
  rfl

theorem nextSize_of_not_isDenied (h : ¬ scope.IsDenied allocator) (entry : Entry) :
    nextSize allocator scope.size = (scope.withRoom.add entry).size := by
  rw [size, size, count_withRoom_add, withRoom_eq, nextSize]
  by_cases hfull : scope.count = scope.capacity
  · have hgranted := not_not.mp fun hdenied => h ⟨hfull, hdenied⟩
    rw [if_neg (not_not_intro hfull), if_pos hfull]
    exact if_pos hgranted
  · rw [if_pos hfull, if_neg hfull]
    rfl

/-- How many of some names are new to a scope. -/
def countNew (scope : Scope) (declarations : List (String × DataType)) : Nat :=
  declarations.countP fun declaration => (scope.lookup declaration.1).isNone

/-- One more entry makes no difference to other names. -/
theorem lookup_withRoom_add {entry : Entry} {name : String} (hother : entry.name ≠ name) :
    (scope.withRoom.add entry).lookup name = scope.lookup name := by
  rw [lookup_add, if_neg hother, Option.or_none, withRoom_eq]
  rfl

/-- So as many of them are new to the scope as before. -/
theorem countNew_withRoom_add {entry : Entry} {declarations : List (String × DataType)}
    (hother : entry.name ∉ declarations.map Prod.fst) :
    (scope.withRoom.add entry).countNew declarations = scope.countNew declarations := by
  refine List.countP_congr fun declaration hmem => ?_
  have hne : entry.name ≠ declaration.1 := fun hsame =>
    hother (hsame ▸ List.mem_map_of_mem hmem)
  rw [lookup_withRoom_add hne]

theorem countNew_cons_of_new {declaration : String × DataType}
    (hnew : scope.lookup declaration.1 = none) (rest : List (String × DataType)) :
    scope.countNew (declaration :: rest) = scope.countNew rest + 1 :=
  List.countP_cons_of_pos (by rw [hnew]; rfl)

theorem countNew_cons_of_held {declaration : String × DataType}
    (hheld : scope.lookup declaration.1 ≠ none) (rest : List (String × DataType)) :
    scope.countNew (declaration :: rest) = scope.countNew rest :=
  List.countP_cons_of_neg (by simpa using hheld)

end Scope

namespace Table

variable {table last : Table σ} {scope : Scope} {outer : List Scope}
  {declarations : List (String × DataType)} {events : List Event} {responses : List Response}

/-- **What declaring some names makes of the innermost scope.**  All are gone through to the end;
    as many entries are added as are declared, and the size of the scope is told by the number of
    names that were new to it. -/
theorem exists_run_declaring [Lenient σ] (hfits : table.Fits)
    (hscopes : table.scopes = scope :: outer) (hdistinct : (declarations.map Prod.fst).Nodup) :
    ∃ events responses last later,
      table.run (declaring declarations) = .done events (responses, last) ∧
        last.scopes = later :: outer ∧
        later.size = (nextSize table.allocator)^[scope.countNew declarations] scope.size ∧
        later.count = scope.count + responses.countP Response.isInserted := by
  induction declarations generalizing table scope with
  | nil => exact ⟨[], [], table, scope, rfl, hscopes, rfl, rfl⟩
  | cons declaration rest ih =>
    obtain ⟨name, type⟩ := declaration
    obtain ⟨hfirst, hrest⟩ := List.nodup_cons.mp hdistinct
    by_cases hnew : scope.lookup name = none
    · rw [Scope.countNew_cons_of_new hnew, Function.iterate_succ_apply]
      by_cases hdenied : scope.IsDenied table.allocator
      · -- Refused: the table is as it was, and so is the size of the scope.
        have heffect := Effect.of_isDenied hfits hscopes hnew hdenied type
        obtain ⟨_, _, last, later, hrun, hlast, hsize, hcount⟩ := ih hfits hscopes hrest
        refine ⟨_, _, last, later, run_cons_eq_done heffect hrun, hlast, ?_, ?_⟩
        · rw [hsize, Scope.nextSize_of_isDenied hdenied]
        · rwa [List.countP_cons_of_neg Bool.false_ne_true]
      · let entry : Entry := ⟨name, type, scope.level⟩
        obtain ⟨_, heffect⟩ := Effect.of_not_isDenied hfits hscopes hnew hdenied type
        obtain ⟨_, _, last, later, hrun, hlast, hsize, hcount⟩ := ih (heffect.fits hfits) rfl hrest
        refine ⟨_, _, last, later, run_cons_eq_done heffect hrun, hlast, ?_, ?_⟩
        · rw [hsize, Scope.nextSize_of_not_isDenied hdenied entry,
            Scope.countNew_withRoom_add hfirst]
        · rw [hcount, Scope.count_withRoom_add, List.countP_cons_of_pos rfl]
          omega
    · have heffect : Effect table (.insert name type) _ _ _ := .redeclared hscopes hnew
      obtain ⟨_, _, last, later, hrun, hlast, hsize, hcount⟩ := ih hfits hscopes hrest
      refine ⟨_, _, last, later, run_cons_eq_done heffect hrun, hlast, ?_, ?_⟩
      · rw [hsize, Scope.countNew_cons_of_held hnew]
      · rwa [List.countP_cons_of_neg Bool.false_ne_true]

/-! ### What is found afterwards -/

/-- Where a name has been declared, the innermost scope is on the level it was on, and the entry is
    that of the name. -/
theorem Effect.of_isInserted {name : String} {type : DataType} {response : Response} {level : Nat}
    (heffect : Effect table (.insert name type) events response last)
    (hlevel : table.currentLevel? = some level) (hinserted : response.isInserted = true) :
    response = .inserted ⟨name, type, level⟩ ∧ last.currentLevel? = some level := by
  cases heffect with
  | nowhereToInsert | redeclared | growthRefused => cases hinserted
  | inserted hscopes hnew hroom hentry =>
    rw [currentLevel?, current?, hscopes, List.head?_cons, Option.map_some, Option.some.injEq]
      at hlevel
    subst hlevel
    obtain ⟨hroomy, -, -, -⟩ := Scope.of_makeRoom_eq_some hroom
    exact ⟨rfl, congrArg some hroomy⟩

/-- **What is found once some names are declared**, all of them and each but once: their own entries,
    and under all other names what was found before. -/
theorem lookup_of_run_declaring {level : Nat} (hlevel : table.currentLevel? = some level)
    (hdistinct : (declarations.map Prod.fst).Nodup)
    (hrun : table.run (declaring declarations) = .done events (responses, last))
    (hall : ∀ response ∈ responses, response.isInserted = true) :
    (∀ declaration ∈ declarations,
      last.lookup declaration.1 = some ⟨declaration.1, declaration.2, level⟩ ∧
        last.lookupCurrent declaration.1 = some ⟨declaration.1, declaration.2, level⟩) ∧
    ∀ name, name ∉ declarations.map Prod.fst →
      last.lookup name = table.lookup name ∧ last.lookupCurrent name = table.lookupCurrent name := by
  induction declarations generalizing table events responses with
  | nil =>
    cases hrun
    exact ⟨List.forall_mem_nil _, fun _ _ => ⟨rfl, rfl⟩⟩
  | cons declaration rest ih =>
    obtain ⟨_, response, middle, _, answers, heffect, hlater, -, rfl⟩ := of_run_cons_eq_done hrun
    rw [List.map_cons, List.nodup_cons] at hdistinct
    rw [List.forall_mem_cons] at hall
    obtain ⟨rfl, hlevel'⟩ := heffect.of_isInserted hlevel hall.1
    obtain ⟨hrest, hothers⟩ := ih hlevel' hdistinct.2 hlater hall.2
    have hfound := heffect.lookup_insert
    constructor
    · refine List.forall_mem_cons.mpr ⟨?_, hrest⟩
      rw [(hothers _ hdistinct.1).1, (hothers _ hdistinct.1).2, (hfound _).1, (hfound _).2]
      simp
    · intro name hname
      rw [List.map_cons, List.mem_cons, not_or] at hname
      rw [(hothers name hname.2).1, (hothers name hname.2).2, (hfound name).1, (hfound name).2,
        if_neg hname.1, if_neg hname.1]
      exact ⟨rfl, rfl⟩

/-- So what is found does not depend on their order. -/
theorem lookup_eq_of_perm {level : Nat} (hlevel : table.currentLevel? = some level)
    {first second : List (String × DataType)} (hdistinct : (first.map Prod.fst).Nodup)
    (hperm : first.Perm second) {events' : List Event} {responses' : List Response}
    {last' : Table σ} (hrun : table.run (declaring first) = .done events (responses, last))
    (hrun' : table.run (declaring second) = .done events' (responses', last'))
    (hall : ∀ response ∈ responses, response.isInserted = true)
    (hall' : ∀ response ∈ responses', response.isInserted = true) (name : String) :
    last.lookup name = last'.lookup name ∧ last.lookupCurrent name = last'.lookupCurrent name := by
  have hnames : (first.map Prod.fst).Perm (second.map Prod.fst) := hperm.map Prod.fst
  obtain ⟨hown, hothers⟩ := lookup_of_run_declaring hlevel hdistinct hrun hall
  obtain ⟨hown', hothers'⟩ :=
    lookup_of_run_declaring hlevel (hnames.nodup_iff.mp hdistinct) hrun' hall'
  by_cases hname : name ∈ first.map Prod.fst
  · obtain ⟨declaration, hmem, rfl⟩ := List.mem_map.mp hname
    obtain ⟨hfound, hfound_current⟩ := hown declaration hmem
    obtain ⟨hfound', hfound_current'⟩ := hown' declaration (hperm.mem_iff.mp hmem)
    exact ⟨hfound.trans hfound'.symm, hfound_current.trans hfound_current'.symm⟩
  · obtain ⟨hkept, hkept_current⟩ := hothers name hname
    obtain ⟨hkept', hkept_current'⟩ := hothers' name fun hmem => hname (hnames.mem_iff.mpr hmem)
    exact ⟨hkept.trans hkept'.symm, hkept_current.trans hkept_current'.symm⟩

/-- **The order of declarations matters little.**  Let some names, no two the same, be declared in
    the innermost scope of a reachable table on a lenient allocator, and let them be declared there
    in another order instead.  Both times all are gone through to the end, equally many are declared,
    and the scope ends with the same numbers of entries and slots, the scopes around it being left
    alone.  If all are declared in one order, so they are in the other, and then every name is found
    alike. -/
theorem declare_in_any_order [Lenient σ] {history : List Operation}
    (hreached : table.ReachedBy history) (hopen : table.scopes ≠ [])
    {first second : List (String × DataType)} (hdistinct : (first.map Prod.fst).Nodup)
    (hperm : first.Perm second) :
    ∃ events responses last scope events' responses' last' scope',
      table.run (declaring first) = .done events (responses, last) ∧
        table.run (declaring second) = .done events' (responses', last') ∧
        last.scopes = scope :: table.scopes.tail ∧ last'.scopes = scope' :: table.scopes.tail ∧
        responses.countP Response.isInserted = responses'.countP Response.isInserted ∧
        scope.count = scope'.count ∧ scope.capacity = scope'.capacity ∧
        ((∀ response ∈ responses, response.isInserted = true) ↔
          ∀ response ∈ responses', response.isInserted = true) ∧
        ((∀ response ∈ responses, response.isInserted = true) →
          ∀ name, last.lookup name = last'.lookup name ∧
            last.lookupCurrent name = last'.lookupCurrent name) := by
  have hfits : table.Fits := fits_of_reachedBy hreached
  obtain ⟨innermost, outer, hscopes⟩ := List.exists_cons_of_ne_nil hopen
  have hdistinct' : (second.map Prod.fst).Nodup := (hperm.map Prod.fst).nodup_iff.mp hdistinct
  obtain ⟨events, responses, last, scope, hrun, hlast, hsize, hcount⟩ :=
    exists_run_declaring hfits hscopes hdistinct
  obtain ⟨events', responses', last', scope', hrun', hlast', hsize', hcount'⟩ :=
    exists_run_declaring hfits hscopes hdistinct'
  -- As many names are new to the scope in either order, so its size becomes the same.
  have hnew : innermost.countNew first = innermost.countNew second := hperm.countP_eq _
  have hsame : scope.size = scope'.size := by rw [hsize, hsize', hnew]
  obtain ⟨hcounts, hslots⟩ := Prod.mk.inj hsame
  have haccepted : responses.countP Response.isInserted =
      responses'.countP Response.isInserted := by omega
  have hlength : responses.length = responses'.length := by
    rw [length_of_run_eq_done hrun, length_of_run_eq_done hrun', declaring, declaring,
      List.length_map, List.length_map, hperm.length_eq]
  have hall : (∀ response ∈ responses, response.isInserted = true) ↔
      ∀ response ∈ responses', response.isInserted = true := by
    rw [← List.countP_eq_length, ← List.countP_eq_length, haccepted, hlength]
  have htail : outer = table.scopes.tail := by rw [hscopes, List.tail_cons]
  have hlevel : table.currentLevel? = some innermost.level := by
    rw [currentLevel?, current?, hscopes]
    rfl
  refine ⟨events, responses, last, scope, events', responses', last', scope', hrun, hrun',
    htail ▸ hlast, htail ▸ hlast', haccepted, hcounts, hslots, hall, fun hinserted => ?_⟩
  exact lookup_eq_of_perm hlevel hdistinct hperm hrun hrun' hinserted (hall.mp hinserted)

/-- Three names in a scope that holds one of them and can take one more: which of the other two it
    takes is a matter of their order.  On the heap it takes them all. -/
theorem declare_in_any_order_under_ceiling :
    let history : List Operation := [.insert "g" .void, .openScope, .insert "a" .int]
    let first : List (String × DataType) := [("b", .int), ("a", .char), ("g", .float)]
    let second : List (String × DataType) := [("g", .float), ("a", .char), ("b", .int)]
    let outer : List Scope := [⟨0, none, 1, [⟨"g", .void, 0⟩]⟩]
    let limited : Table Capped := ⟨⟨1, some 0, 1, [⟨"a", .int, 1⟩]⟩ :: outer, 2, 1, ⟨3⟩⟩
    let free : Table Heap := (blank 0 {}).opened
    (limited.ReachedBy history ∧ ∃ responses last responses' last' events events',
      limited.run (declaring first) = .done events (responses, last) ∧
        limited.run (declaring second) = .done events' (responses', last') ∧
        last.scopes = ⟨1, some 0, 2, [⟨"a", .int, 1⟩, ⟨"b", .int, 1⟩]⟩ :: outer ∧
        last'.scopes = ⟨1, some 0, 2, [⟨"a", .int, 1⟩, ⟨"g", .float, 1⟩]⟩ :: outer ∧
        responses.countP Response.isInserted = responses'.countP Response.isInserted) ∧
    (free.ReachedBy [] ∧ ∃ responses last responses' last' events events',
      free.run (declaring first) = .done events (responses, last) ∧
        free.run (declaring second) = .done events' (responses', last') ∧
        (∀ response ∈ responses', response.isInserted = true) ∧
        ∀ name, last.lookup name = last'.lookup name) := by
  intro history first second outer limited free
  have hreached : limited.ReachedBy history := ⟨1, ⟨3⟩, _, _, _, _, rfl, rfl⟩
  have hreached' : free.ReachedBy [] := ⟨0, {}, _, _, _, _, rfl, rfl⟩
  have hdistinct : (first.map Prod.fst).Nodup := by decide
  have hperm : first.Perm second := by decide
  refine ⟨⟨hreached, ?_⟩, hreached', ?_⟩
  · obtain ⟨_, responses, last, _, _, responses', last', _, hrun, hrun', -, -, hcount, -⟩ :=
      declare_in_any_order hreached (List.cons_ne_nil _ _) hdistinct hperm
    refine ⟨responses, last, responses', last', _, _, hrun, hrun', ?_, ?_, hcount⟩
    · cases hrun
      rfl
    · cases hrun'
      rfl
  · obtain ⟨_, responses, last, _, _, responses', last', _, hrun, hrun', -, -, -, -, -, hall,
      hlookup⟩ := declare_in_any_order hreached' (List.cons_ne_nil _ _) hdistinct hperm
    have hinserted : ∀ response ∈ responses, response.isInserted = true := by
      cases hrun
      decide
    exact ⟨responses, last, responses', last', _, _, hrun, hrun', hall.mp hinserted,
      fun name => (hlookup hinserted name).1⟩

end Table

end Frontend
