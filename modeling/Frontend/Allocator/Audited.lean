import Frontend.Allocator.Basic

namespace Frontend

/-!
# An audited allocator

* `Audited σ` — an allocator together with the record of every request it got.

The audit only watches: the answers are those of the allocator inside (`answer_audited`).
-/

/-- An allocator whose requests are recorded. -/
structure Audited (σ : Type) where
  /-- The allocator that answers. -/
  inner : σ
  /-- The requests so far with their answers, the latest first. -/
  calls : List (Request × Reply) := []

variable {σ : Type} [Allocator σ]

instance : Allocator (Audited σ) where
  answer audited request :=
    let (reply, inner) := Allocator.answer audited.inner request
    (reply, { inner, calls := (request, reply) :: audited.calls })

/-- Every request is recorded, with the answer of the allocator inside. -/
@[simp] theorem answer_audited (audited : Audited σ) (request : Request) :
    Allocator.answer audited request =
      ((Allocator.answer audited.inner request).1,
        { inner := (Allocator.answer audited.inner request).2
          calls := (request, (Allocator.answer audited.inner request).1) :: audited.calls }) := rfl

/-- The requests so far with their answers, in the order they were made. -/
def Audited.record (audited : Audited σ) : List (Request × Reply) :=
  audited.calls.reverse

/-- An audit with an empty record. -/
def Audited.cleared (audited : Audited σ) : Audited σ :=
  { audited with calls := [] }

end Frontend
