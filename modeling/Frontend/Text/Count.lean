namespace Frontend.Text

/-!
# Counts

A count is a natural number that fits in a machine word.

* `wordMax` — the largest count;
* `readCount?` — reads a count from its decimal digits.
-/

/-- The largest count, one below the 64th power of two: all bits of a word set. -/
def wordMax : Nat := 18446744073709551615

/-- The digits of a written count: what follows the plus sign, if there is one. -/
def countDigits : List Char → List Char
  | '+' :: digits => digits
  | digits => digits

/-- Reads a count: at least one decimal digit, after at most one plus sign.  No blank, separator
    or minus sign is taken, and a number beyond `wordMax` is no count. -/
def readCount? (text : String) : Option Nat :=
  let digits := countDigits text.toList
  let value := Nat.ofDigitChars 10 digits 0
  if digits ≠ [] ∧ digits.all Char.isDigit ∧ value ≤ wordMax then some value else none

theorem readCount?_le {text : String} {n : Nat} (h : readCount? text = some n) : n ≤ wordMax := by
  simp only [readCount?, Option.ite_none_right_eq_some, Option.some.injEq] at h
  obtain ⟨⟨-, -, hle⟩, rfl⟩ := h
  exact hle

/-- A count is read back from its decimal text. -/
theorem readCount?_repr {n : Nat} (h : n ≤ wordMax) : readCount? n.repr = some n := by
  have hdigits : ∀ c ∈ Nat.toDigits 10 n, c.isDigit = true :=
    fun c hc => Nat.isDigit_of_mem_toDigits (by decide) (by decide) hc
  have hplus : countDigits (Nat.toDigits 10 n) = Nat.toDigits 10 n := by
    unfold countDigits
    split
    · rename_i digits heq
      have := hdigits '+' (by rw [heq]; exact List.mem_cons_self)
      exact absurd this (by decide)
    · rfl
  simp only [readCount?, Nat.repr_eq_ofList_toDigits, String.toList_ofList, hplus,
    Nat.ofDigitChars_ten_toDigits]
  rw [if_pos ⟨Nat.toDigits_ne_nil, List.all_eq_true.mpr hdigits, h⟩]

end Frontend.Text
