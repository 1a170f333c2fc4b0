import Frontend.Allocator.Basic

namespace Frontend

/-!
# A rationed allocator

An allocator that can be made to refuse any request, for trying out every way a symbol table may be
denied room.

* `Rationed` — a ceiling on scopes, together with rations of scopes and of entries and a schedule
  of growths to refuse;
* `spend?` — takes one from a ration.
-/

/-- Takes one from a ration.  No ration at all never runs out; an empty one is `none`. -/
def spend? : Option Nat → Option (Option Nat)
  | none => some none
  | some 0 => none
  | some (left + 1) => some (some left)

/-- An allocator with a ceiling and rations. -/
structure Rationed where
  /-- The most slots any one scope may hold. -/
  maxSlots : Nat
  /-- How many more scopes are granted, if they are rationed. -/
  scopesLeft : Option Nat := none
  /-- How many more entries are granted, if they are rationed. -/
  entriesLeft : Option Nat := none
  /-- For each growth request to come, whether it may be granted at all; past the end it may. -/
  growths : List Bool := []

/-- A scope beyond the ceiling is refused without touching the ration, and a growth uses up its
    place in the schedule whatever the answer. -/
def Rationed.answer (rationed : Rationed) : Request → Reply × Rationed
  | .scope slots =>
    if slots ≤ rationed.maxSlots then
      match spend? rationed.scopesLeft with
      | some scopesLeft => (.granted, { rationed with scopesLeft })
      | none => (.refused slots, rationed)
    else (.refused slots, rationed)
  | .growth _ requested =>
    let after := { rationed with growths := rationed.growths.tail }
    if rationed.growths.headD true then (.within rationed.maxSlots requested, after)
    else (.refused requested, after)
  | .entry _ =>
    match spend? rationed.entriesLeft with
    | some entriesLeft => (.granted, { rationed with entriesLeft })
    | none => (.refused 1, rationed)

instance : Allocator Rationed where
  answer := Rationed.answer

end Frontend
