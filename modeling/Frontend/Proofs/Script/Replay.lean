import Frontend.Proofs.Script.Exchanges
import Frontend.Proofs.Table.Steady
import Mathlib.Data.List.DropRight

namespace Frontend.Script

/-!
# What a script leaves behind

Of a script, only the commands after its last reset that changed something leave a trace.

* `effective` — these commands, with their answers;
* `leadsTo_effective` — they alone lead to the same table;
* `runCommands_effective` — so running them alone gives the same answers and the same table.
-/

/-- Whether a line asks for a reset. -/
def asksReset (line : String) : Bool := lineOperation? line == some .reset

/-- Whether a line asked to open, to close or to declare, and succeeded. -/
def tookEffect (exchange : Exchange) : Bool :=
  match lineOperation? exchange.1 with
  | some .openScope | some .closeScope | some (.insert _ _) => exchange.2.isOk
  | some .reset | none => false

/-- The exchanges after the last reset, all of them if there is none, that changed the table. -/
def effective (exchanges : List Exchange) : List Exchange :=
  (exchanges.rtakeWhile fun exchange => !asksReset exchange.1).filter tookEffect

/-- A reset wipes out everything before it; any other line is kept if it took effect. -/
theorem effective_snoc (exchanges : List Exchange) (exchange : Exchange) :
    effective (exchanges ++ [exchange]) =
      if asksReset exchange.1 then [] else effective exchanges ++ [exchange].filter tookEffect := by
  rw [effective, List.rtakeWhile_concat]
  cases asksReset exchange.1 <;> simp [effective]

/-- The effective exchanges are some of all. -/
theorem effective_sublist (exchanges : List Exchange) :
    (effective exchanges).Sublist exchanges :=
  List.filter_sublist.trans (List.rtakeWhile_suffix _ _).sublist

/-- What is effective has succeeded. -/
theorem isOk_of_mem_effective {exchanges : List Exchange} {exchange : Exchange}
    (h : exchange ∈ effective exchanges) : exchange.2.isOk = true := by
  have heffect := (List.mem_filter.mp h).2
  unfold tookEffect at heffect
  split at heffect
  · exact heffect
  · exact heffect
  · exact heffect
  · cases heffect
  · cases heffect

variable {σ : Type} [Allocator σ]

/-- A line that asks for a reset leaves a fresh table. -/
theorem eq_of_asksReset {table next : Table σ} {line : String} {events : List Event}
    {answer : Answer} (hperform : perform table line = .done events (answer, next))
    (hreset : asksReset line = true) :
    next = (Table.blank table.initialCapacity table.allocator).opened := by
  obtain ⟨response, heffect, -⟩ := effect_of_perform hperform (beq_iff_eq.mp hreset)
  exact heffect.eq_of_reset

variable [Steady σ]

/-- A line that neither asks for a reset nor takes effect leaves the table as it is. -/
theorem eq_of_not_tookEffect {table next : Table σ} {line : String} {events : List Event}
    {answer : Answer} (hperform : perform table line = .done events (answer, next))
    (hreset : asksReset line = false) (hnone : tookEffect (line, answer) = false) :
    next = table := by
  cases hline : lineOperation? line with
  | none => exact (eq_of_perform hperform hline).2
  | some operation =>
    obtain ⟨response, heffect, rfl⟩ := effect_of_perform hperform hline
    have hfailed : response.answer.isOk = false := by
      cases operation with
      | reset => simp [asksReset, hline] at hreset
      | openScope | closeScope | insert _ _ => simpa [tookEffect, hline] using hnone
    obtain ⟨error, rfl⟩ := Response.isOk_answer_eq_false_iff.mp hfailed
    exact heffect.eq_of_refused

/-- No line changes what a fresh table is made of. -/
theorem configuration_of_perform {table next : Table σ} {line : String} {events : List Event}
    {answer : Answer} (hperform : perform table line = .done events (answer, next)) :
    next.initialCapacity = table.initialCapacity ∧ next.allocator = table.allocator := by
  cases hline : lineOperation? line with
  | none =>
    rw [(eq_of_perform hperform hline).2]
    exact ⟨rfl, rfl⟩
  | some operation =>
    obtain ⟨response, heffect, -⟩ := effect_of_perform hperform hline
    exact ⟨heffect.initialCapacity, heffect.allocator_eq⟩

theorem configuration_of_leadsTo {start last : Table σ} {exchanges : List Exchange}
    {events : List Event} (hrun : LeadsTo start exchanges events last) :
    last.initialCapacity = start.initialCapacity ∧ last.allocator = start.allocator := by
  refine hrun.invariant (fun table =>
    table.initialCapacity = start.initialCapacity ∧ table.allocator = start.allocator)
    (fun hperform hsame => ?_) ⟨rfl, rfl⟩
  obtain ⟨hcapacity, hallocator⟩ := configuration_of_perform hperform
  exact ⟨hcapacity.trans hsame.1, hallocator.trans hsame.2⟩

/-- **The effective exchanges lead where all of them do.** -/
theorem leadsTo_effective {capacity : Nat} {allocator : σ} {exchanges : List Exchange}
    {events : List Event} {last : Table σ}
    (hrun : LeadsTo (Table.blank capacity allocator).opened exchanges events last) :
    ∃ reported,
      LeadsTo (Table.blank capacity allocator).opened (effective exchanges) reported last := by
  induction hrun with
  | nil => exact ⟨[], .nil⟩
  | snoc hbefore hperform ih =>
    rename_i exchange
    obtain ⟨line, answer⟩ := exchange
    obtain ⟨reported, hkept⟩ := ih
    rw [effective_snoc]
    cases hreset : asksReset line with
    | true =>
      -- Nothing is kept, and the table is the one that everything started from.
      obtain ⟨hcapacity, hallocator⟩ := configuration_of_leadsTo hbefore
      have hfresh := eq_of_asksReset hperform hreset
      have hkeeps : (Table.blank capacity allocator).opened.allocator = allocator :=
        Steady.answer_snd allocator _
      rw [hcapacity, hallocator, hkeeps] at hfresh
      rw [hfresh]
      exact ⟨[], .nil⟩
    | false =>
      cases hchange : tookEffect (line, answer) with
      | true => exact ⟨_, by simpa [hchange] using hkept.snoc hperform⟩
      | false =>
        -- The line is dropped, and it has not moved the table either.
        rw [eq_of_not_tookEffect hperform hreset hchange]
        exact ⟨_, by simpa [hchange] using hkept⟩

/-- **A script leaves behind what its effective lines alone would.**  Run on a fresh table with a
    steady allocator, be it the heap or one with a ceiling, they all succeed and are answered as in
    the whole script, and they end in the same scopes and with the same next level.  It does not
    matter where the whole script was written to, nor whether it was stopped. -/
theorem runCommands_effective {τ : Type} [Sink τ] {capacity : Nat} {allocator : σ}
    {created : List Event} {start : Table σ}
    (hcreate : Table.create capacity allocator = .done created start) (sink : τ)
    (source : String) :
    let whole := run start sink source
    let made := exchanges { table := start, sink } (split source)
    let kept := effective made
    let again := runCommands start ({} : Transcript) (kept.map Prod.fst)
    (whole.stop = none → made.map Prod.fst = split source) ∧
      whole.sink = writeAnswers sink (made.map Prod.snd) ∧
      (kept.map Prod.fst).Sublist (split source) ∧
      again.stop = none ∧ again.failures = 0 ∧
      exchanges { table := start, sink := ({} : Transcript) } (kept.map Prod.fst) = kept ∧
      again.sink.text = transcriptText (kept.map Prod.snd) ∧
      again.table.scopes = whole.table.scopes ∧ again.table.nextLevel = whole.table.nextLevel := by
  intro whole made kept again
  obtain ⟨-, -, rfl⟩ := Table.create_eq_done_iff.mp hcreate
  obtain ⟨events, hrun⟩ : ∃ events, LeadsTo _ made events whole.table :=
    leadsTo_exchanges { table := _, sink } (split source)
  obtain ⟨reported, hkept⟩ := leadsTo_effective hrun
  have hagain : again = _ := foldl_step_of_leadsTo rfl hkept
  have hfailures : (kept.map Prod.snd).countP (fun answer => !answer.isOk) = 0 := by
    rw [List.countP_eq_zero]
    intro answer hanswer
    obtain ⟨exchange, hmem, rfl⟩ := List.mem_map.mp hanswer
    simp [isOk_of_mem_effective hmem]
  refine ⟨map_fst_exchanges, sink_foldl_step _ _, ?_, ?_, ?_, exchanges_of_leadsTo rfl hkept, ?_,
    ?_, ?_⟩
  · exact ((effective_sublist made).map _).trans (map_fst_exchanges_initial _ _).sublist
  · rw [hagain]
  · rw [hagain]
    exact (Nat.zero_add _).trans hfailures
  · rw [hagain, writeAnswers_transcript]
    exact String.empty_append
  · rw [hagain]
  · rw [hagain]

/-- A script with every kind of line, on scopes of one slot: what was done before the reset, what
    failed and what only looked is left out. -/
theorem runCommands_effective_capped :
    let source :=
      "int a\nreset; int b; int c; int b; lookup b; no; \x7d; \x7d; dump\n\x7b // in\nint e"
    let start := (Table.blank 1 (Capped.mk 1)).opened
    let again := runCommands start ({} : Transcript) ["int b", "\x7d", "\x7b", "int e"]
    Table.create 1 (Capped.mk 1) = .done [.opened 0, .started] start ∧
      again.failures = 0 ∧
      again.sink.text = transcriptText [.ok "Inserted 'b' (INT) at level 0",
        .ok "Closed scope level 0", .ok "Opened scope level 1",
        .ok "Inserted 'e' (INT) at level 1"] ∧
      again.table.scopes = (run start ({} : Transcript) source).table.scopes := by
  intro source start again
  have hcreate : Table.create 1 (Capped.mk 1) = .done [.opened 0, .started] start := rfl
  have hkept : effective (exchanges { table := start, sink := ({} : Transcript) } (split source)) =
      [("int b", .ok "Inserted 'b' (INT) at level 0"), ("\x7d", .ok "Closed scope level 0"),
        ("\x7b", .ok "Opened scope level 1"), ("int e", .ok "Inserted 'e' (INT) at level 1")] := by
    decide +kernel
  have hwhole := runCommands_effective hcreate ({} : Transcript) source
  dsimp only at hwhole
  rw [hkept] at hwhole
  obtain ⟨-, -, -, -, hfailures, -, htext, hscopes, -⟩ := hwhole
  exact ⟨hcreate, hfailures, htext, hscopes⟩

end Frontend.Script
