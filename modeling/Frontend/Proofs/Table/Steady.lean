import Frontend.Proofs.Table.Effect

namespace Frontend

/-!
# Steady allocators

Allocators that answer from the request alone.  On these, an operation that is refused leaves no
trace in the table, not even in its allocator, and emptying a table makes it the table it was when
it was created.

* `Steady` — the allocators of this kind, the heap and every ceiling among them;
* `Table.Effect.eq_of_refused`, `Table.Effect.eq_of_reset` — the two facts.
-/

/-- An allocator that is not changed by answering. -/
class Steady (σ : Type) [Allocator σ] : Prop where
  /-- Answering leaves the allocator as it was. -/
  answer_snd : ∀ (allocator : σ) (request : Request),
    (Allocator.answer allocator request).2 = allocator

instance : Steady Heap where
  answer_snd _ _ := rfl

instance : Steady Capped where
  answer_snd _ _ := rfl

variable {σ : Type} [Allocator σ]

/-- Emptying a table leaves what creating it would. -/
theorem Table.Effect.eq_of_reset {table next : Table σ} {events : List Event}
    {response : Response} (heffect : Effect table .reset events response next) :
    next = (blank table.initialCapacity table.allocator).opened := by
  cases heffect
  rfl

variable [Steady σ]

theorem Steady.eq_of_answer {before after : σ} {request : Request} {reply : Reply}
    (h : Allocator.answer before request = (reply, after)) : after = before := by
  rw [← answer_snd before request, h]

theorem Scope.eq_of_makeRoom {scope : Scope} {room : Option Scope} {before after : σ}
    (h : scope.makeRoom before = (room, after)) : after = before := by
  unfold makeRoom at h
  split at h
  · rcases hanswer : Allocator.answer before (.growth scope.capacity scope.doubled) with
      ⟨reply, answered⟩
    rw [← Steady.eq_of_answer hanswer]
    simp only [hanswer] at h
    split at h <;> exact (Prod.mk.inj h).2.symm
  · exact (Prod.mk.inj h).2.symm

namespace Table.Effect

variable {table next : Table σ} {operation : Operation} {events : List Event}
  {response : Response}

/-- No operation changes a steady allocator. -/
theorem allocator_eq (heffect : Effect table operation events response next) :
    next.allocator = table.allocator := by
  cases heffect with
  | opened hcan => exact Steady.answer_snd _ _
  | nothingToClose | nowhereToInsert | redeclared | closed => rfl
  | growthRefused hscopes hnew hroom => exact Scope.eq_of_makeRoom hroom
  | inserted hscopes hnew hroom hentry =>
    exact (Steady.eq_of_answer hentry).trans (Scope.eq_of_makeRoom hroom)
  | restarted hcan => exact Steady.answer_snd _ _

/-- What is refused leaves no trace. -/
theorem eq_of_refused {error : TableError}
    (heffect : Effect table operation events (.refused error) next) : next = table := by
  cases heffect with
  | nothingToClose | nowhereToInsert | redeclared => rfl
  | growthRefused hscopes hnew hroom => rw [Scope.eq_of_makeRoom hroom]

end Table.Effect

end Frontend
