namespace Frontend.Text

/-!
# Counting in bytes

Places in a text may be counted in the bytes that its characters take in UTF-8.

* `byteCount` — the number of bytes of a text;
* `splitBytes?` — a text in two parts, the first of a given number of bytes;
* `cut?` — the piece of a text at a given place.

Such a count may end inside a character; then there is no such part (`splitBytes?_eq_some_iff`).
-/

/-- The number of bytes that characters take in UTF-8. -/
def byteCount (text : List Char) : Nat :=
  text.foldr (fun c total => c.utf8Size + total) 0

@[simp] theorem byteCount_nil : byteCount [] = 0 := rfl

@[simp] theorem byteCount_cons (c : Char) (text : List Char) :
    byteCount (c :: text) = c.utf8Size + byteCount text := rfl

/-- The characters that take the first `size` bytes of a text, and the rest of it. -/
def splitBytes? (size : Nat) : List Char → Option (List Char × List Char)
  | [] => if size = 0 then some ([], []) else none
  | c :: rest =>
    if size = 0 then some ([], c :: rest)
    else if size < c.utf8Size then none
    else (splitBytes? (size - c.utf8Size) rest).map fun halves => (c :: halves.1, halves.2)

/-- A text can be split where one of its characters ends, and nowhere else. -/
theorem splitBytes?_eq_some_iff {size : Nat} {text part rest : List Char} :
    splitBytes? size text = some (part, rest) ↔ text = part ++ rest ∧ byteCount part = size := by
  induction text generalizing size part rest with
  | nil =>
    cases part with
    | nil => by_cases h : size = 0 <;> simp [splitBytes?, h, eq_comm]
    | cons d part => by_cases h : size = 0 <;> simp [splitBytes?, h]
  | cons c text ih =>
    have hc := c.utf8Size_pos
    cases part with
    | nil =>
      unfold splitBytes?
      split
      · simp_all [eq_comm]
      · split <;> simp <;> omega
    | cons d part =>
      have hd := d.utf8Size_pos
      unfold splitBytes?
      split
      · simp only [Option.some.injEq, Prod.mk.injEq, reduceCtorEq, false_and, byteCount_cons,
          false_iff, not_and]
        omega
      · split
        · simp only [reduceCtorEq, List.cons_append, List.cons.injEq, byteCount_cons, false_iff,
            not_and]
          rintro ⟨rfl, -⟩
          omega
        · simp only [Option.map_eq_some_iff, Prod.exists, Prod.mk.injEq, List.cons.injEq,
            List.cons_append, byteCount_cons, ih]
          constructor
          · rintro ⟨part', rest', ⟨rfl, hsize⟩, ⟨rfl, rfl⟩, rfl⟩
            exact ⟨⟨rfl, rfl⟩, by omega⟩
          · rintro ⟨⟨rfl, rfl⟩, hsize⟩
            exact ⟨part, rest, ⟨rfl, by omega⟩, ⟨rfl, rfl⟩, rfl⟩

/-- The piece of a text that begins after `start` bytes and is `size` bytes long. -/
def cut? (text : List Char) (start size : Nat) : Option (List Char) :=
  (splitBytes? start text).bind fun halves => (splitBytes? size halves.2).map Prod.fst

/-- What stands in a text is cut out of it at its place. -/
theorem cut?_append (before piece after : List Char) :
    cut? (before ++ (piece ++ after)) (byteCount before) (byteCount piece) = some piece := by
  rw [cut?, splitBytes?_eq_some_iff.mpr ⟨rfl, rfl⟩]
  exact congrArg (Option.map Prod.fst) (splitBytes?_eq_some_iff.mpr ⟨rfl, rfl⟩)

/-- A cut inside a character gives nothing. -/
example : cut? ['é', 'a'] 0 2 = some ['é'] ∧ cut? ['é', 'a'] 1 1 = none := by decide

end Frontend.Text
