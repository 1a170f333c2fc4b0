import Frontend.Allocator.Audited
import Frontend.Allocator.Rationed
import Frontend.Proofs.Script.Perform
import Frontend.Proofs.Table.Capacity

namespace Frontend

/-!
# What a table asks its allocator for

Which requests the operations of a run make, what an allocator that keeps a record of them has
recorded in the end, and what can be read off that record.

* `Call` — a request with its answer;
* `Scope.declaringCalls`, `Table.dueCalls` — the calls that are due to an operation;
* `Table.Effect.audited` — under audit an operation has the same effect, and exactly the calls that
  are due are recorded;
* `Table.Effect.countP_dueCalls` — an entry is granted for every declaration, and no other;
* `Ledger` — for each open scope, the slots it was given when it last grew;
* `Table.record_of_run` — all of this for a whole run;
* `Table.record_of_run_reservable` — the calls of a run whose growths can be reserved wherever they
  are granted, told by the replies alone.
-/

/-- A request with the answer it got. -/
abbrev Call := Request × Reply

/-- Whether a call granted an entry. -/
def Call.grantsEntry : Call → Bool
  | (.entry _, .granted) => true
  | _ => false

/-- The slots a call gave to a full scope.  A growth that is granted still has to be reserved. -/
def Call.slots? : Call → Option Nat
  | (.growth _ requested, .granted) =>
    if requested < Scope.slotLimit then some requested else none
  | _ => none

/-- Whether every growth that was granted can be reserved, too. -/
def Reservable (calls : List Call) : Prop :=
  ∀ current requested : Nat, (.growth current requested, .granted) ∈ calls →
    requested < Scope.slotLimit

theorem reservable_append_iff {first second : List Call} :
    Reservable (first ++ second) ↔ Reservable first ∧ Reservable second := by
  simp only [Reservable, List.mem_append, or_imp, forall_and]

/-- The slots given by the last of some calls that gave any. -/
def slotsGiven? (calls : List Call) : Option Nat :=
  (calls.filterMap Call.slots?).getLast?

/-- Whether a response says that a name was declared. -/
def Response.isInserted : Response → Bool
  | inserted _ => true
  | _ => false

/-- An entry gives no slots. -/
theorem slotsGiven?_append_entry (calls : List Call) (nameBytes : Nat) (reply : Reply) :
    slotsGiven? (calls ++ [(.entry nameBytes, reply)]) = slotsGiven? calls := by
  simp [slotsGiven?, Call.slots?]

variable {σ : Type}

/-- A table with its allocator under audit, and a record of earlier calls. -/
def Table.audited (table : Table σ) (record : List Call) : Table (Audited σ) :=
  { table with allocator := { inner := table.allocator, calls := record.reverse } }

@[simp] theorem Table.record_audited (table : Table σ) (record : List Call) :
    (table.audited record).allocator.record = record :=
  List.reverse_reverse record

variable [Allocator σ]

/-- A request put to an allocator, with its answer. -/
def callOf (allocator : σ) (request : Request) : Call :=
  (request, (Allocator.answer allocator request).1)

theorem callOf_eq {before after : σ} {request : Request} {reply : Reply}
    (hanswer : Allocator.answer before request = (reply, after)) :
    callOf before request = (request, reply) := by
  rw [callOf, hanswer]

/-! ### The calls of one declaration -/

namespace Scope

/-- The call that is due to make room for one more entry, if there is none. -/
def roomCalls (scope : Scope) (allocator : σ) : List Call :=
  if scope.count = scope.capacity then [callOf allocator scope.growth] else []

/-- The calls that are due to the declaration of a new name: one for more slots if all are taken,
    and then, unless there are no more, one for the entry. -/
def declaringCalls (scope : Scope) (name : String) (allocator : σ) : List Call :=
  let entry := Request.entry name.utf8ByteSize
  if scope.count = scope.capacity then
    let (reply, later) := Allocator.answer allocator scope.growth
    if reply = .granted ∧ scope.grown.capacity < slotLimit then
      [(scope.growth, reply), callOf later entry]
    else [(scope.growth, reply)]
  else [callOf allocator entry]

/-- The same calls, if a growth that is granted can always be reserved: the entry is asked for
    exactly if the growth is granted, or if none is needed. -/
def callsByReply (scope : Scope) (name : String) (allocator : σ) : List Call :=
  let entry := Request.entry name.utf8ByteSize
  if scope.count = scope.capacity then
    match Allocator.answer allocator scope.growth with
    | (.granted, later) => [(scope.growth, .granted), callOf later entry]
    | (.refused requested, _) => [(scope.growth, .refused requested)]
  else [callOf allocator entry]

/-- Where it can be reserved, they are indeed the same. -/
theorem declaringCalls_of_reservable {scope : Scope} {name : String} {allocator : σ}
    (h : Reservable (scope.declaringCalls name allocator)) :
    scope.declaringCalls name allocator = scope.callsByReply name allocator := by
  unfold declaringCalls callsByReply
  by_cases hfull : scope.count = scope.capacity
  · rcases hanswer : Allocator.answer allocator scope.growth with ⟨reply, later⟩
    cases reply with
    | refused requested => simp [hfull]
    | granted =>
      -- Whatever follows the growth, the growth itself is among the calls.
      have hreserved : scope.grown.capacity < slotLimit := by
        refine h scope.capacity scope.grown.capacity ?_
        unfold declaringCalls
        simp only [if_pos hfull, hanswer]
        split <;> exact List.mem_cons_self
      simp [hfull, hreserved]
  · rw [if_neg hfull, if_neg hfull]

variable {scope roomy : Scope} {before after : σ}

/-- Room is made under audit as it is without, and its call is recorded. -/
theorem Room.audited {room : Option Scope} (hroom : scope.Room before room after)
    (record : List Call) :
    scope.Room (Audited.mk before record.reverse) room
      (Audited.mk after (record ++ scope.roomCalls before).reverse) := by
  cases hroom with
  | free hfree =>
    rw [roomCalls, if_neg hfree, List.append_nil]
    exact .free hfree
  | grown hfull hanswer hreserved =>
    refine .grown hfull ?_ hreserved
    simp [roomCalls, hfull, callOf, hanswer]
  | refused hfull hanswer hrefused =>
    refine .refused hfull ?_ hrefused
    simp [roomCalls, hfull, callOf, hanswer]

/-- With room, the entry is asked for. -/
theorem Room.declaringCalls_eq (hroom : scope.Room before (some roomy) after) (name : String) :
    scope.declaringCalls name before =
      scope.roomCalls before ++ [callOf after (.entry name.utf8ByteSize)] := by
  cases hroom with
  | free hfree => simp [declaringCalls, roomCalls, hfree]
  | grown hfull hanswer hreserved =>
    simp [declaringCalls, roomCalls, hfull, callOf, hanswer, hreserved]

/-- Without room, it is not. -/
theorem Room.declaringCalls_of_refused (hroom : scope.Room before none after) (name : String) :
    scope.declaringCalls name before = scope.roomCalls before := by
  cases hroom with
  | refused hfull hanswer hrefused =>
    simp [declaringCalls, roomCalls, hfull, callOf, hanswer, hrefused]

/-- A growth gives the slots that were asked for, or none. -/
theorem slots?_growth (scope : Scope) (reply : Reply) :
    Call.slots? (scope.growth, reply) =
      if reply = .granted ∧ scope.grown.capacity < slotLimit then some scope.grown.capacity
      else none := by
  cases reply with
  | granted => simp [growth, grown, Call.slots?]
  | refused requested => simp [growth, Call.slots?]

/-- The scope has the slots it was given, or as many as before. -/
theorem Room.capacity_eq (hroom : scope.Room before (some roomy) after) :
    roomy.capacity = (slotsGiven? (scope.roomCalls before)).getD scope.capacity := by
  cases hroom with
  | free hfree =>
    rw [roomCalls, if_neg hfree]
    rfl
  | grown hfull hanswer hreserved =>
    rw [roomCalls, if_pos hfull, callOf_eq hanswer]
    simp [slotsGiven?, slots?_growth, hreserved]

/-- No slots are given where there is no room. -/
theorem Room.slotsGiven?_eq_none (hroom : scope.Room before none after) :
    slotsGiven? (scope.roomCalls before) = none := by
  cases hroom with
  | refused hfull hanswer hrefused =>
    rw [roomCalls, if_pos hfull, callOf_eq hanswer]
    simp [slotsGiven?, slots?_growth, hrefused]

/-- Making room is not an entry. -/
theorem countP_roomCalls (scope : Scope) (allocator : σ) :
    (scope.roomCalls allocator).countP Call.grantsEntry = 0 := by
  unfold roomCalls
  split <;> rfl

end Scope

namespace Table

/-! ### The calls of one operation -/

/-- The calls that are due to an operation.  Opening a scope asks for its first slots, and so does
    emptying a table; closing asks for nothing, and so does a declaration without a scope or of a
    name that the innermost scope holds. -/
def dueCalls (table : Table σ) : Operation → List Call
  | .openScope | .reset => [callOf table.allocator (.scope table.initialCapacity)]
  | .closeScope => []
  | .insert name _ =>
    match table.scopes with
    | [] => []
    | scope :: _ =>
      if (scope.lookup name).isSome then [] else scope.declaringCalls name table.allocator

/-- A declaration without a scope asks for nothing. -/
theorem dueCalls_insert_of_nil {table : Table σ} (hscopes : table.scopes = []) (name : String)
    (type : DataType) : table.dueCalls (.insert name type) = [] := by
  simp [dueCalls, hscopes]

/-- Nor does one of a name that the innermost scope holds. -/
theorem dueCalls_insert_of_held {table : Table σ} {name : String} {scope : Scope}
    {outer : List Scope} (hscopes : table.scopes = scope :: outer)
    (hheld : scope.lookup name ≠ none) (type : DataType) :
    table.dueCalls (.insert name type) = [] := by
  simp [dueCalls, hscopes, Option.isSome_iff_ne_none.mpr hheld]

/-- A declaration that finds its name new in the innermost scope asks for what that scope asks. -/
theorem dueCalls_insert {table : Table σ} {name : String} {scope : Scope}
    {outer : List Scope} (hscopes : table.scopes = scope :: outer)
    (hnew : scope.lookup name = none) (type : DataType) :
    table.dueCalls (.insert name type) = scope.declaringCalls name table.allocator := by
  simp [dueCalls, hscopes, hnew]

/-- The calls that are due to an operation, if a growth that is granted can always be reserved. -/
def callsByReply (table : Table σ) : Operation → List Call
  | .insert name _ =>
    match table.scopes with
    | [] => []
    | scope :: _ =>
      if (scope.lookup name).isSome then [] else scope.callsByReply name table.allocator
  | operation => table.dueCalls operation

/-- Where it can be reserved, they are indeed those. -/
theorem dueCalls_of_reservable {table : Table σ} {operation : Operation}
    (h : Reservable (table.dueCalls operation)) :
    table.dueCalls operation = table.callsByReply operation := by
  cases operation with
  | openScope | closeScope | reset => rfl
  | insert name type =>
    cases hscopes : table.scopes with
    | nil =>
      rw [dueCalls_insert_of_nil hscopes]
      simp [callsByReply, hscopes]
    | cons scope outer =>
      by_cases hnew : scope.lookup name = none
      · rw [dueCalls_insert hscopes hnew] at h ⊢
        rw [Scope.declaringCalls_of_reservable h]
        simp [callsByReply, hscopes, hnew]
      · rw [dueCalls_insert_of_held hscopes hnew]
        simp [callsByReply, hscopes, Option.isSome_iff_ne_none.mpr hnew]

/-- Opening a scope is one call. -/
theorem opened_audited (table : Table σ) (record : List Call) :
    (table.audited record).opened =
      table.opened.audited
        (record ++ [callOf table.allocator (.scope table.initialCapacity)]) := by
  simp [audited, opened, callOf, currentLevel?, current?]

/-- The audit changes nothing, and what it records is what is due. -/
theorem Effect.audited {table next : Table σ} {operation : Operation} {events : List Event}
    {response : Response} (heffect : Effect table operation events response next)
    (hfits : table.Fits) (record : List Call) :
    Effect (table.audited record) operation events response
      (next.audited (record ++ table.dueCalls operation)) := by
  cases heffect with
  | opened hcan =>
    rw [dueCalls, ← opened_audited]
    exact .opened hcan
  | nothingToClose hscopes =>
    rw [dueCalls, List.append_nil]
    exact .nothingToClose hscopes
  | closed hscopes =>
    rw [dueCalls, List.append_nil]
    exact .closed hscopes
  | nowhereToInsert hscopes =>
    rw [dueCalls_insert_of_nil hscopes, List.append_nil]
    exact .nowhereToInsert hscopes
  | redeclared hscopes hheld =>
    rw [dueCalls_insert_of_held hscopes hheld, List.append_nil]
    exact .redeclared hscopes hheld
  | growthRefused hscopes hnew hroom =>
    have hscope := hfits.current hscopes
    have hmade := hscope.makeRoom_eq_iff.mp hroom
    rw [dueCalls_insert hscopes hnew, hmade.declaringCalls_of_refused]
    exact .growthRefused hscopes hnew (hscope.makeRoom_eq_iff.mpr (hmade.audited record))
  | inserted hscopes hnew hroom hentry =>
    have hscope := hfits.current hscopes
    have hmade := hscope.makeRoom_eq_iff.mp hroom
    rw [dueCalls_insert hscopes hnew, hmade.declaringCalls_eq, callOf_eq hentry]
    -- The entry is asked for after the slots, so it stands behind them on record.
    refine .inserted hscopes hnew (hscope.makeRoom_eq_iff.mpr (hmade.audited record)) ?_
    simp [hentry]
  | restarted hcan =>
    rw [dueCalls]
    have hopened := opened_audited (blank table.initialCapacity table.allocator) record
    exact hopened ▸ .restarted hcan

/-- An entry is granted for a declaration that succeeds, and for nothing else. -/
theorem Effect.countP_dueCalls {table next : Table σ} {operation : Operation}
    {events : List Event} {response : Response}
    (heffect : Effect table operation events response next) (hfits : table.Fits) :
    (table.dueCalls operation).countP Call.grantsEntry = [response].countP Response.isInserted := by
  cases heffect with
  | opened | nothingToClose | closed | restarted => rfl
  | nowhereToInsert hscopes =>
    rw [dueCalls_insert_of_nil hscopes]
    rfl
  | redeclared hscopes hheld =>
    rw [dueCalls_insert_of_held hscopes hheld]
    rfl
  | growthRefused hscopes hnew hroom =>
    have hmade := (hfits.current hscopes).makeRoom_eq_iff.mp hroom
    rw [dueCalls_insert hscopes hnew, hmade.declaringCalls_of_refused, Scope.countP_roomCalls]
    rfl
  | inserted hscopes hnew hroom hentry =>
    have hmade := (hfits.current hscopes).makeRoom_eq_iff.mp hroom
    -- Only the last call is one for an entry.
    rw [dueCalls_insert hscopes hnew, hmade.declaringCalls_eq, List.countP_append,
      Scope.countP_roomCalls, callOf_eq hentry]
    rfl

end Table

/-! ### The slots of the open scopes -/

/-- For each open scope, the innermost first, the slots it was given when it last grew. -/
abbrev Ledger := List (Option Nat)

/-- The ledger after one operation, from its response and its calls. -/
def Ledger.after (ledger : Ledger) : Response → List Call → Ledger
  | .opened _, _ => none :: ledger
  | .closed _, _ => ledger.tail
  | .restarted, _ => [none]
  | .inserted _, calls | .refused _, calls => ledger.modifyHead ((slotsGiven? calls).or ·)

/-- The ledger after several operations, from the responses and the calls of each. -/
def Ledger.afterAll (ledger : Ledger) (responses : List Response) (calls : List (List Call)) :
    Ledger :=
  (responses.zip calls).foldl (fun ledger turn => ledger.after turn.1 turn.2) ledger

/-- What is refused gives no slots. -/
theorem Ledger.after_refused {calls : List Call} (hcalls : slotsGiven? calls = none)
    (ledger : Ledger) (error : TableError) : ledger.after (.refused error) calls = ledger := by
  rw [Ledger.after, hcalls]
  cases ledger <;> rfl

namespace Table

/-- Whether a ledger tells the slots of every open scope: those it was last given, or the initial
    ones. -/
def Tallies (table : Table σ) (ledger : Ledger) : Prop :=
  table.scopes.map Scope.capacity = ledger.map (·.getD table.initialCapacity)

/-- What an operation does to the slots of the open scopes is what its calls do to a ledger. -/
theorem Effect.tallies {table next : Table σ} {operation : Operation}
    {events : List Event} {response : Response}
    (heffect : Effect table operation events response next) (hfits : table.Fits)
    {ledger : Ledger} (h : table.Tallies ledger) :
    next.Tallies (ledger.after response (table.dueCalls operation)) := by
  unfold Tallies at h ⊢
  cases heffect with
  | opened hcan =>
    rw [scopes_opened, List.map_cons, h]
    rfl
  | nothingToClose hscopes => rwa [Ledger.after_refused rfl]
  | closed hscopes =>
    rw [hscopes, List.map_cons] at h
    rw [Ledger.after, List.map_tail, ← h]
    rfl
  | nowhereToInsert hscopes =>
    rwa [dueCalls_insert_of_nil hscopes, Ledger.after_refused rfl]
  | redeclared hscopes hheld =>
    rwa [dueCalls_insert_of_held hscopes hheld, Ledger.after_refused rfl]
  | growthRefused hscopes hnew hroom =>
    have hmade := (hfits.current hscopes).makeRoom_eq_iff.mp hroom
    rwa [dueCalls_insert hscopes hnew, hmade.declaringCalls_of_refused,
      Ledger.after_refused hmade.slotsGiven?_eq_none]
  | inserted hscopes hnew hroom hentry =>
    have hmade := (hfits.current hscopes).makeRoom_eq_iff.mp hroom
    rw [dueCalls_insert hscopes hnew, hmade.declaringCalls_eq, callOf_eq hentry, Ledger.after,
      slotsGiven?_append_entry]
    rw [hscopes, List.map_cons] at h
    cases ledger with
    | nil => cases h
    | cons last ledger =>
      -- Below the innermost scope nothing has changed.
      obtain ⟨hcapacity, houter⟩ := List.cons.inj h
      rw [List.modifyHead_cons, List.map_cons, List.map_cons, houter, List.cons.injEq,
        Option.getD_or]
      refine ⟨hmade.capacity_eq.trans ?_, rfl⟩
      rw [hcapacity]
  | restarted hcan => rfl

/-! ### The calls of a run -/

/-- The calls that are due to each operation of a run. -/
def dueLists (table : Table σ) (history : List Operation) : List (List Call) :=
  List.zipWith dueCalls (table.moments history) history

theorem dueLists_cons {table next : Table σ} {operation : Operation} {reported : List Event}
    {response : Response} (heffect : Effect table operation reported response next)
    (rest : List Operation) :
    table.dueLists (operation :: rest) = table.dueCalls operation :: next.dueLists rest := by
  rw [dueLists, moments_cons heffect, List.zipWith_cons_cons]
  rfl

variable {table last : Table σ} {history : List Operation} {events : List Event}
  {responses : List Response}

/-- A run under audit goes as it does without. -/
theorem run_audited (h : table.run history = .done events (responses, last))
    (hfits : table.Fits) (record : List Call) :
    (table.audited record).run history =
      .done events (responses, last.audited (record ++ (table.dueLists history).flatten)) := by
  -- Every operation finds the calls of those before it on record.
  induction history generalizing table events responses record with
  | nil =>
    cases h
    simp [dueLists]
  | cons operation rest ih =>
    obtain ⟨_, _, middle, _, _, heffect, hrest, rfl, rfl⟩ := of_run_cons_eq_done h
    rw [dueLists_cons heffect, List.flatten_cons, ← List.append_assoc]
    exact run_cons_eq_done (heffect.audited hfits record) (ih hrest (heffect.fits hfits) _)

/-- Where all that is granted in a run can be reserved, the replies tell the calls of each
    operation. -/
theorem dueLists_of_reservable (h : table.run history = .done events (responses, last))
    (hreservable : Reservable (table.dueLists history).flatten) :
    table.dueLists history = List.zipWith callsByReply (table.moments history) history := by
  induction history generalizing table events responses with
  | nil => rfl
  | cons operation rest ih =>
    obtain ⟨_, _, middle, _, _, heffect, hrest, -, -⟩ := of_run_cons_eq_done h
    rw [dueLists_cons heffect, List.flatten_cons, reservable_append_iff] at hreservable
    rw [dueLists_cons heffect, moments_cons heffect, List.zipWith_cons_cons,
      dueCalls_of_reservable hreservable.1, ih hrest hreservable.2]

/-- In a run, an entry is granted for every declaration that succeeds. -/
theorem countP_of_run (h : table.run history = .done events (responses, last))
    (hfits : table.Fits) :
    (table.dueLists history).flatten.countP Call.grantsEntry =
      responses.countP Response.isInserted := by
  induction history generalizing table events responses with
  | nil =>
    cases h
    rfl
  | cons operation rest ih =>
    obtain ⟨_, response, middle, _, tail, heffect, hrest, rfl, rfl⟩ := of_run_cons_eq_done h
    rw [dueLists_cons heffect, List.flatten_cons, List.countP_append,
      heffect.countP_dueCalls hfits, ih hrest (heffect.fits hfits), ← List.countP_append]
    rfl

/-- A ledger is kept through a run. -/
theorem tallies_of_run (h : table.run history = .done events (responses, last))
    (hfits : table.Fits) {ledger : Ledger} (htallies : table.Tallies ledger) :
    last.Tallies (ledger.afterAll responses (table.dueLists history)) := by
  induction history generalizing table events responses ledger with
  | nil =>
    cases h
    exact htallies
  | cons operation rest ih =>
    obtain ⟨_, response, middle, _, tail, heffect, hrest, rfl, rfl⟩ := of_run_cons_eq_done h
    rw [dueLists_cons heffect]
    exact ih hrest (heffect.fits hfits) (heffect.tallies hfits htallies)

/-- Under audit a table is created as it is without, and its one call is recorded. -/
theorem create_audited {capacity : Nat} {allocator : σ} {start : Table σ} {created : List Event}
    (hcreate : create capacity allocator = .done created start) :
    create capacity ({ inner := allocator } : Audited σ) =
      .done created (start.audited [(.scope capacity, .granted)]) := by
  obtain ⟨hcan, rfl, rfl⟩ := create_eq_done_iff.mp hcreate
  have hcall : callOf allocator (.scope capacity) = (.scope capacity, .granted) := by
    rw [callOf, ← hcan.2.1]
    rfl
  refine create_eq_done_iff.mpr ⟨hcan, rfl, ?_⟩
  rw [← hcall]
  exact (opened_audited (blank capacity allocator) []).symm

/-- **A table asks for exactly what is due.**  Creating a table asks for the first slots of its
    root.  From then on every operation makes the calls that are due to it (`dueCalls`), whatever
    the allocator answers: this is what an audited allocator has on record after a run that goes, in
    all else, as it does without the audit.  Commands that only look make no call.  No bound is put
    on the slots of a scope: a growth to `Scope.slotLimit` or more cannot be reserved, and counts as
    refused even where it is granted.

    So an entry was granted for each declaration that succeeded, and for no other; and every open
    scope has the slots that it was given when it last grew, or the initial ones if it never did. -/
theorem record_of_run {capacity : Nat} {allocator : σ} {start : Table σ} {created : List Event}
    (hcreate : create capacity allocator = .done created start)
    (hrun : start.run history = .done events (responses, last)) :
    let record := (.scope capacity, .granted) :: (start.dueLists history).flatten
    (∃ first, create capacity ({ inner := allocator } : Audited σ) = .done created first ∧
        first.run history = .done events (responses, last.audited record)) ∧
      (last.audited record).allocator.record = record ∧
      (∀ command : Command, command.operation? = none →
        ∃ answer, command.execute (last.audited record) = .done [] (answer, last.audited record)) ∧
      record.countP Call.grantsEntry = responses.countP Response.isInserted ∧
      last.scopes.map Scope.capacity =
        (Ledger.afterAll [none] responses (start.dueLists history)).map (·.getD capacity) := by
  obtain ⟨hcan, -, rfl⟩ := create_eq_done_iff.mp hcreate
  have hfits : (blank capacity allocator).opened.Fits := (fits_blank _ _).opened hcan
  intro record
  refine ⟨⟨_, create_audited hcreate, run_audited hrun hfits _⟩,
    record_audited last record, fun command hlooks => ?_, ?_, ?_⟩
  · exact command.execute_of_operation?_eq_none hlooks _
  · rw [← countP_of_run hrun hfits]
    rfl
  · have hcapacity : last.initialCapacity = capacity := initialCapacity_of_run hrun
    -- The root has not grown yet, so the ledger begins with nothing for it.
    have htallies : last.Tallies (Ledger.afterAll [none] responses _) :=
      tallies_of_run hrun hfits rfl
    rwa [Tallies, hcapacity] at htallies

/-- A run in which a growth is refused and asked for again, a name is declared twice, and a scope is
    opened inside the one that has grown. -/
theorem record_of_run_refused_growth :
    let allocator : Rationed := { maxSlots := 2, growths := [false, true] }
    let history : List Operation :=
      [.openScope, .reset, .insert "a" .int, .insert "a" .int, .insert "b" .int, .insert "b" .int,
        .openScope, .closeScope, .openScope, .insert "é" .void]
    let record : List Call :=
      [(.scope 1, .granted), (.scope 1, .granted), (.scope 1, .granted), (.entry 1, .granted),
        (.growth 1 2, .refused 2), (.growth 1 2, .granted), (.entry 1, .granted),
        (.scope 1, .granted), (.scope 1, .granted), (.entry 2, .granted)]
    ∃ created start events responses last,
      create 1 allocator = .done created start ∧
        start.run history = .done events (responses, last) ∧
        (∃ first, create 1 ({ inner := allocator } : Audited Rationed) = .done created first ∧
          first.run history = .done events (responses, last.audited record)) ∧
        record.countP Call.grantsEntry = responses.countP Response.isInserted ∧
        last.scopes.map Scope.capacity = [1, 2] := by
  intro allocator history record
  have hcreate : create 1 allocator = .done _ _ := rfl
  have hrun : (blank 1 allocator).opened.run history = .done _ (_, _) := rfl
  obtain ⟨haudited, -, -, hentries, hslots⟩ := record_of_run hcreate hrun
  exact ⟨_, _, _, _, _, hcreate, hrun, haudited, hentries, hslots⟩

/-- **Where every growth that is granted can be reserved, the replies alone tell the calls.**  Then
    the entry is asked for exactly if the growth before it is granted, or if no growth is needed
    (`callsByReply`). -/
theorem record_of_run_reservable {capacity : Nat} {allocator : σ} {start : Table σ}
    {created : List Event} (hcreate : create capacity allocator = .done created start)
    (hrun : start.run history = .done events (responses, last))
    (hreservable : Reservable (start.dueLists history).flatten) :
    let calls := List.zipWith callsByReply (start.moments history) history
    let record := (.scope capacity, .granted) :: calls.flatten
    (∃ first, create capacity ({ inner := allocator } : Audited σ) = .done created first ∧
        first.run history = .done events (responses, last.audited record)) ∧
      (last.audited record).allocator.record = record := by
  obtain ⟨hcan, -, rfl⟩ := create_eq_done_iff.mp hcreate
  have hfits : (blank capacity allocator).opened.Fits := (fits_blank _ _).opened hcan
  rw [← dueLists_of_reservable hrun hreservable]
  exact ⟨⟨_, create_audited hcreate, run_audited hrun hfits _⟩, record_audited last _⟩

end Table

end Frontend
