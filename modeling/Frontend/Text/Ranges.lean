namespace Frontend.Text

/-!
# Ranges of code points

A property of characters is kept as a list of closed ranges of code points, in increasing order.

* `inRanges` — whether a number lies in one of the ranges;
* `ascending` — whether the ranges are in order and apart;
* `rangeCount` — how many numbers lie in them.

In ranges that are in order, the search may stop at the first range beyond the number
(`inRanges_iff`).
-/

/-- Whether `n` lies in one of the ranges.  A range beyond `n` ends the search. -/
def inRanges : List (Nat × Nat) → Nat → Bool
  | [], _ => false
  | (first, last) :: rest, n => if n < first then false else n ≤ last || inRanges rest n

/-- Whether every range is a range, and begins more than one beyond the end of the one before. -/
def ascending : List (Nat × Nat) → Bool
  | [] => true
  | [range] => range.1 ≤ range.2
  | range :: next :: rest =>
    range.1 ≤ range.2 && range.2 + 1 < next.1 && ascending (next :: rest)

/-- How many numbers lie in ranges that are apart. -/
def rangeCount (ranges : List (Nat × Nat)) : Nat :=
  ranges.foldr (fun range total => range.2 + 1 - range.1 + total) 0

theorem ascending_tail {range : Nat × Nat} {rest : List (Nat × Nat)}
    (h : ascending (range :: rest) = true) : ascending rest = true := by
  cases rest with
  | nil => rfl
  | cons next rest =>
    simp only [ascending, Bool.and_eq_true] at h
    exact h.2

/-- In ranges that are in order, all others lie beyond the first. -/
theorem lt_of_mem_of_ascending {range other : Nat × Nat} {rest : List (Nat × Nat)}
    (h : ascending (range :: rest) = true) (hmem : other ∈ rest) : range.2 < other.1 := by
  induction rest generalizing range with
  | nil => simp at hmem
  | cons next rest ih =>
    have hnext := h
    simp only [ascending, Bool.and_eq_true, decide_eq_true_eq] at hnext
    rcases List.mem_cons.mp hmem with rfl | hmem
    · omega
    · have hwidth : next.1 ≤ next.2 := by
        have := hnext.2
        cases rest with
        | nil => simpa [ascending] using this
        | cons _ _ =>
          simp only [ascending, Bool.and_eq_true, decide_eq_true_eq] at this
          exact this.1.1
      have := ih hnext.2 hmem
      omega

theorem inRanges_iff {ranges : List (Nat × Nat)} (h : ascending ranges = true) (n : Nat) :
    inRanges ranges n = true ↔ ∃ range ∈ ranges, range.1 ≤ n ∧ n ≤ range.2 := by
  induction ranges with
  | nil => simp [inRanges]
  | cons range rest ih =>
    unfold inRanges
    split
    · rename_i hlt
      simp only [Bool.false_eq_true, false_iff, not_exists, not_and]
      intro other hmem hle
      rcases List.mem_cons.mp hmem with rfl | hmem
      · omega
      · have hwidth := lt_of_mem_of_ascending h hmem
        have : range.1 ≤ range.2 := by
          cases rest with
          | nil => simp at hmem
          | cons _ _ =>
            simp only [ascending, Bool.and_eq_true, decide_eq_true_eq] at h
            exact h.1.1
        omega
    · rename_i hle
      simp only [Bool.or_eq_true, decide_eq_true_eq, ih (ascending_tail h), List.mem_cons,
        exists_eq_or_imp]
      constructor
      · rintro (h | h)
        · exact .inl ⟨by omega, h⟩
        · exact .inr h
      · rintro (h | h)
        · exact .inl h.2
        · exact .inr h

end Frontend.Text
