import Frontend.Proofs.Table.Insertion
import Frontend.Proofs.Table.Steady

namespace Frontend

/-!
# Lenient allocators

Steady allocators that refuse no entry.  All that one of these can deny a table is more slots, so
what a new name comes to is told by the slots of the innermost scope alone.

* `Lenient` — the allocators of this kind, the heap and every ceiling among them;
* `Table.Effect.of_isDenied`, `Table.Effect.of_not_isDenied` — a new name in a scope that is denied
  more slots, and in any other.
-/

/-- A steady allocator that refuses no entry. -/
class Lenient (σ : Type) [Allocator σ] : Prop extends Steady σ where
  /-- Every entry is granted. -/
  answer_entry : ∀ (allocator : σ) (nameBytes : Nat),
    (Allocator.answer allocator (.entry nameBytes)).1 = .granted

instance : Lenient Heap where
  answer_entry _ _ := rfl

instance : Lenient Capped where
  answer_entry _ _ := rfl

namespace Table.Effect

variable {σ : Type} [Allocator σ] {table : Table σ} {scope : Scope} {outer : List Scope}
  {name : String}

/-- A new name is refused where there is no slot for it and none to be had, and that leaves no
    trace. -/
theorem of_isDenied [Steady σ] (hfits : table.Fits) (hscopes : table.scopes = scope :: outer)
    (hnew : scope.lookup name = none) (hdenied : scope.IsDenied table.allocator)
    (type : DataType) :
    Effect table (.insert name type) [.growthRefused scope.level scope.capacity scope.doubled]
      (.refused (.growthRefused scope.level scope.capacity)) table := by
  have hroom := (hfits.current hscopes).makeRoom_eq_none_iff.mpr ⟨hdenied, rfl⟩
  have heffect : Effect table (.insert name type) _ _ _ := growthRefused hscopes hnew hroom
  rwa [heffect.eq_of_refused] at heffect

/-- A new name is declared everywhere else. -/
theorem of_not_isDenied [Lenient σ] (hfits : table.Fits) (hscopes : table.scopes = scope :: outer)
    (hnew : scope.lookup name = none) (hroom : ¬ scope.IsDenied table.allocator)
    (type : DataType) :
    ∃ events, Effect table (.insert name type) events
      (.inserted { name, type, level := scope.level })
      { table with
        scopes := scope.withRoom.add { name, type, level := scope.level } :: outer } := by
  have hgranted := Lenient.answer_entry (scope.askForRoom table.allocator) name.utf8ByteSize
  obtain ⟨events, heffect⟩ := (inserted_iff hfits).mpr
    ⟨scope, outer, hscopes, hnew, hroom, hgranted, rfl, rfl⟩
  have hsame := heffect.allocator_eq
  dsimp only at hsame
  rw [hsame] at heffect
  exact ⟨events, heffect⟩

end Table.Effect

end Frontend
