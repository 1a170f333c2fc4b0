import Frontend.Text.Ranges

namespace Frontend.Text

/-!
# Blank characters

The characters that separate words and that trimming removes are those with the Unicode property
White_Space.

* `blankRanges` — the property, as closed ranges of code points in increasing order;
* `isBlank` — membership of one character.

The ASCII blanks known to `Char.isWhitespace` are among them (`isBlank_of_isWhitespace`).
-/

/-- The code points with the property White_Space: tab to carriage return, the space, and nineteen
    more beyond ASCII.  The zero-width space and the byte order mark are not among them. -/
def blankRanges : List (Nat × Nat) :=
  [(0x09, 0x0D), (0x20, 0x20), (0x85, 0x85), (0xA0, 0xA0), (0x1680, 0x1680), (0x2000, 0x200A),
   (0x2028, 0x2029), (0x202F, 0x202F), (0x205F, 0x205F), (0x3000, 0x3000)]

/-- Whether `c` has the property White_Space. -/
def isBlank (c : Char) : Bool := inRanges blankRanges c.toNat

example : ascending blankRanges = true := by decide

/-- The property holds of 25 code points. -/
example : rangeCount blankRanges = 25 := by decide

/-- Every blank of ASCII is a blank. -/
theorem isBlank_of_isWhitespace {c : Char} (h : c.isWhitespace = true) : isBlank c = true := by
  simp only [Char.isWhitespace, Bool.or_eq_true, decide_eq_true_eq] at h
  rcases h with ((rfl | rfl) | rfl) | rfl <;> rfl

end Frontend.Text
