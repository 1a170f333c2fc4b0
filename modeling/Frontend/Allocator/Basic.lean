namespace Frontend

/-!
# Allocators

A symbol table asks an allocator before it takes room for anything.

* `Request` — what is asked for: the first slots of a scope, more slots for a full scope, one entry;
* `Reply` — the answer, granted or refused;
* `Allocator` — anything that answers requests, from a state of its own;
* `Heap` — the allocator that grants everything;
* `Capped` — the allocator with a ceiling on the slots of any one scope.
-/

/-- What a symbol table asks an allocator for. -/
inductive Request where
  /-- The first `slots` slots of a scope that is about to be opened. -/
  | scope (slots : Nat)
  /-- More room for a full scope: `requested` slots in place of `current`. -/
  | growth (current requested : Nat)
  /-- One entry whose name takes `nameBytes` bytes of UTF-8. -/
  | entry (nameBytes : Nat)
  deriving DecidableEq

/-- An allocator's answer to one request. -/
inductive Reply where
  | granted
  /-- Refused, with the number of slots that were asked for. -/
  | refused (requested : Nat)
  deriving DecidableEq

namespace Reply

/-- Whether the request was granted. -/
def isGranted : Reply → Bool
  | granted => true
  | refused _ => false

@[simp] theorem isGranted_granted : granted.isGranted = true := rfl

@[simp] theorem isGranted_refused (requested : Nat) : (refused requested).isGranted = false := rfl

/-- Grants `slots` slots exactly when they are within `limit`. -/
def within (limit slots : Nat) : Reply :=
  if slots ≤ limit then granted else refused slots

@[simp] theorem isGranted_within (limit slots : Nat) :
    (within limit slots).isGranted = decide (slots ≤ limit) := by
  unfold within
  split <;> simp [*]

/-- The text of an answer: nothing for a grant, the reason for a refusal. -/
def message? : Reply → Option String
  | granted => none
  | refused requested => some s!"allocation of {requested} slots refused"

end Reply

/-- An allocator answers one request at a time.  Its answers may depend on a state of type `σ`,
    which each answer, refusals included, replaces. -/
class Allocator (σ : Type) where
  answer : σ → Request → Reply × σ

/-! ### The heap -/

/-- The allocator that grants every request. -/
structure Heap where
  deriving DecidableEq, Inhabited

instance : Allocator Heap where
  answer heap _ := (.granted, heap)

@[simp] theorem answer_heap (heap : Heap) (request : Request) :
    Allocator.answer heap request = (.granted, heap) := rfl

/-! ### A ceiling on every scope -/

/-- The allocator that lets no scope hold more than `maxSlots` slots. -/
structure Capped where
  maxSlots : Nat
  deriving DecidableEq

/-- The answer under a ceiling looks at the slots a scope would have; entries are always granted. -/
def Capped.reply (capped : Capped) : Request → Reply
  | .scope slots => .within capped.maxSlots slots
  | .growth _ requested => .within capped.maxSlots requested
  | .entry _ => .granted

instance : Allocator Capped where
  answer capped request := (capped.reply request, capped)

@[simp] theorem answer_capped (capped : Capped) (request : Request) :
    Allocator.answer capped request = (capped.reply request, capped) := rfl

end Frontend
