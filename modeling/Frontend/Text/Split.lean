import Frontend.Text.Blank

namespace Frontend.Text

/-!
# Cutting text into pieces

Text is cut as a list of characters.

* `splitWhere p` — the pieces of a list between the elements that satisfy `p`, empty pieces
  included;
* `lines` — the lines of a text, and `linewise` the induction on them;
* `place?` — where a text first holds another one, and `substitute` a text with one character
  replaced throughout;
* `words` — the maximal runs of characters that are not blank;
* `trim` — the text without the blanks at its two ends, and `trimmed` the same on strings;
* `padRight` — a text filled up with spaces to a given number of characters.
-/

/-! ### Pieces between separators -/

variable {α : Type}

/-- The pieces of a text between its separators, the elements that satisfy `p`.  A text without
    a separator is one piece, and every separator adds one. -/
def splitWhere (p : α → Bool) (text : List α) : List (List α) :=
  text.foldr (fun c pieces => if p c then [] :: pieces else pieces.modifyHead (c :: ·)) [[]]

@[simp] theorem splitWhere_nil (p : α → Bool) : splitWhere p [] = [[]] := rfl

theorem splitWhere_cons_of_pos {p : α → Bool} {c : α} (h : p c = true) (text : List α) :
    splitWhere p (c :: text) = [] :: splitWhere p text := by
  simp [splitWhere, h]

theorem splitWhere_cons_of_neg {p : α → Bool} {c : α} (h : p c = false) (text : List α) :
    splitWhere p (c :: text) = (splitWhere p text).modifyHead (c :: ·) := by
  simp [splitWhere, h]

/-- The number of pieces is one more than the number of separators. -/
theorem length_splitWhere (p : α → Bool) (text : List α) :
    (splitWhere p text).length = text.countP p + 1 := by
  induction text with
  | nil => rfl
  | cons c text ih =>
    cases h : p c with
    | true => rw [splitWhere_cons_of_pos h, List.length_cons, ih, List.countP_cons_of_pos h]
    | false =>
      rw [splitWhere_cons_of_neg h, List.length_modifyHead, ih,
        List.countP_cons_of_neg (by simp [h])]

theorem splitWhere_ne_nil (p : α → Bool) (text : List α) : splitWhere p text ≠ [] := by
  rw [← List.length_pos_iff, length_splitWhere]
  omega

/-- A separator ends one piece and begins another. -/
theorem splitWhere_append {p : α → Bool} {c : α} (h : p c = true) (before after : List α) :
    splitWhere p (before ++ c :: after) = splitWhere p before ++ splitWhere p after := by
  induction before with
  | nil => rw [List.nil_append, splitWhere_cons_of_pos h]; rfl
  | cons d before ih =>
    rw [List.cons_append]
    cases hd : p d with
    | true => rw [splitWhere_cons_of_pos hd, splitWhere_cons_of_pos hd, ih]; rfl
    | false =>
      rw [splitWhere_cons_of_neg hd, splitWhere_cons_of_neg hd, ih]
      obtain ⟨piece, pieces, hpieces⟩ := List.exists_cons_of_ne_nil (splitWhere_ne_nil p before)
      rw [hpieces]
      rfl

/-- Without a separator there is one piece. -/
theorem splitWhere_of_notMem [DecidableEq α] {c : α} {text : List α} (h : c ∉ text) :
    splitWhere (· == c) text = [text] := by
  induction text with
  | nil => rfl
  | cons d text ih =>
    have hne : (d == c) = false := beq_eq_false_iff_ne.mpr (List.ne_of_not_mem_cons h).symm
    rw [splitWhere_cons_of_neg (p := (· == c)) hne, ih (List.not_mem_of_not_mem_cons h)]
    rfl

/-! ### Lines -/

/-- A line without the carriage return at its end, if it has one. -/
def withoutReturn (line : List Char) : List Char :=
  if line.getLast? == some '\r' then line.dropLast else line

/-- At most one carriage return is left out of a line. -/
theorem eq_or_eq_concat_withoutReturn (line : List Char) :
    line = withoutReturn line ∨ line = withoutReturn line ++ ['\r'] := by
  unfold withoutReturn
  split
  · rename_i hreturn
    obtain ⟨start, rfl⟩ := List.getLast?_eq_some_iff.mp (beq_iff_eq.mp hreturn)
    exact .inr (by rw [List.dropLast_concat])
  · exact .inl rfl

/-- The lines of a text: what stands before each newline, without a carriage return right before
    it, and what follows the last newline unless that is nothing. -/
def lines (text : List Char) : List (List Char) :=
  let pieces := splitWhere (· == '\n') text
  let last := pieces.getLastD []
  pieces.dropLast.map withoutReturn ++ (if last.isEmpty then [] else [last])

/-- What has no newline is one line, or none. -/
theorem lines_of_notMem {line : List Char} (h : '\n' ∉ line) :
    lines line = if line.isEmpty then [] else [line] := by
  simp [lines, splitWhere_of_notMem h]

/-- What stands before the first newline is the first line. -/
theorem lines_append_newline {line : List Char} (h : '\n' ∉ line) (rest : List Char) :
    lines (line ++ '\n' :: rest) = withoutReturn line :: lines rest := by
  obtain ⟨piece, pieces, hrest⟩ :=
    List.exists_cons_of_ne_nil (splitWhere_ne_nil (· == '\n') rest)
  simp [lines, splitWhere_append, splitWhere_of_notMem h, hrest]

/-- Induction on the lines of a text: it has no newline, or it is a line and another text. -/
@[elab_as_elim] theorem linewise {motive : List Char → Prop}
    (last : ∀ line, '\n' ∉ line → motive line)
    (line : ∀ line rest, '\n' ∉ line → motive rest → motive (line ++ '\n' :: rest))
    (text : List Char) : motive text := by
  -- What has been read of the line that is not ended yet is `kept`.
  suffices h : ∀ kept, '\n' ∉ kept → motive (kept ++ text) from h [] List.not_mem_nil
  induction text with
  | nil => intro kept hkept; simpa using last kept hkept
  | cons c text ih =>
    intro kept hkept
    by_cases hc : c = '\n'
    · subst hc
      exact line kept text hkept (ih [] List.not_mem_nil)
    · have hkept' : '\n' ∉ kept ++ [c] := by simp [hkept, Ne.symm hc]
      simpa using ih (kept ++ [c]) hkept'

/-! ### Searching and replacing -/

/-- The place where a text first holds `mark`, if it does. -/
def place? (mark : List Char) : List Char → Option Nat
  | [] => if mark.isEmpty then some 0 else none
  | c :: rest => if mark.isPrefixOf (c :: rest) then some 0 else (place? mark rest).map (· + 1)

/-- A text with `new` in the place of every `old`. -/
def substitute (old : Char) (new text : List Char) : List Char :=
  text.flatMap fun c => if c == old then new else [c]

theorem substitute_append (old : Char) (new first second : List Char) :
    substitute old new (first ++ second) =
      substitute old new first ++ substitute old new second :=
  List.flatMap_append

/-! ### Words -/

/-- The words of a text, in order: what stands between blanks and is not empty. -/
def words (text : List Char) : List (List Char) :=
  (splitWhere isBlank text).filter fun word => !word.isEmpty

/-- What is left of a text without its start is no longer than the text. -/
theorem length_dropWhile_le (p : α → Bool) (text : List α) :
    (text.dropWhile p).length ≤ text.length :=
  (List.dropWhile_suffix p).length_le

/-! ### Trimming and padding -/

/-- A text without the blanks at its start and at its end. -/
def trim (text : List Char) : List Char :=
  ((text.dropWhile isBlank).reverse.dropWhile isBlank).reverse

@[simp] theorem trim_nil : trim [] = [] := rfl

/-- A blank at the start is trimmed. -/
theorem trim_cons_of_isBlank {c : Char} (h : isBlank c = true) (text : List Char) :
    trim (c :: text) = trim text := by
  rw [trim, trim, List.dropWhile_cons_of_pos h]

/-- A blank at the end is trimmed. -/
theorem trim_concat_of_isBlank {c : Char} (h : isBlank c = true) (text : List Char) :
    trim (text ++ [c]) = trim text := by
  rw [trim, trim, List.dropWhile_append]
  split
  · rename_i hnone
    rw [List.dropWhile_cons_of_pos h, List.isEmpty_iff.mp hnone, List.dropWhile_nil]
  · rw [List.reverse_append, List.reverse_singleton, List.singleton_append,
      List.dropWhile_cons_of_pos h]

/-- What is no blank at the start stays there. -/
theorem head?_trim_cons {c : Char} (h : isBlank c = false) (text : List Char) :
    (trim (c :: text)).head? = some c := by
  have hc : ¬ isBlank c = true := by simp [h]
  rw [trim, List.dropWhile_cons_of_neg hc, List.head?_reverse, List.reverse_cons,
    List.dropWhile_append, List.dropWhile_cons_of_neg hc]
  split <;> simp

/-- What does not depend on the first element, if that satisfies `p`, depends on none of those. -/
theorem eq_of_dropWhile {β : Type} {p : α → Bool} {f : List α → β}
    (hstart : ∀ c text, p c = true → f (c :: text) = f text) (text : List α) :
    f (text.dropWhile p) = f text := by
  induction text with
  | nil => rfl
  | cons c text ih =>
    cases hc : p c with
    | true => rw [List.dropWhile_cons_of_pos hc, ih, hstart c text hc]
    | false => rw [List.dropWhile_cons_of_neg (by simp [hc])]

/-- What does not depend on a blank at either end does not depend on trimming. -/
theorem eq_of_trim {β : Type} {f : List Char → β}
    (hstart : ∀ c text, isBlank c = true → f (c :: text) = f text)
    (hend : ∀ c text, isBlank c = true → f (text ++ [c]) = f text) (text : List Char) :
    f (trim text) = f text := by
  have hreversed : ∀ c text, isBlank c = true → f (c :: text).reverse = f text.reverse := by
    intro c text hc
    rw [List.reverse_cons, hend c _ hc]
  rw [trim, eq_of_dropWhile (f := fun text => f text.reverse) hreversed, List.reverse_reverse,
    eq_of_dropWhile hstart]

/-- Nothing is left to be trimmed. -/
theorem trim_trim (text : List Char) : trim (trim text) = trim text :=
  eq_of_trim (fun _ text h => trim_cons_of_isBlank h text)
    (fun _ text h => trim_concat_of_isBlank h text) text

/-- What is left after trimming is a part of the text. -/
theorem isInfix_trim (text : List Char) : trim text <:+: text := by
  have hend : trim text <+: text.dropWhile isBlank := by
    rw [← List.reverse_suffix, trim, List.reverse_reverse]
    exact List.dropWhile_suffix _
  exact hend.isInfix.trans (List.dropWhile_suffix _).isInfix

/-- A text without a blank at either end stays as it is. -/
theorem trim_eq_self {text : List Char} (hstart : text.head?.all (!isBlank ·))
    (hend : text.getLast?.all (!isBlank ·)) : trim text = text := by
  have hkept : ∀ {part : List Char}, part.head?.all (!isBlank ·) →
      part.dropWhile isBlank = part := by
    intro part hpart
    cases part with
    | nil => rfl
    | cons c part => exact List.dropWhile_cons_of_neg (by simpa using hpart)
  rw [trim, hkept hstart, hkept (by rwa [List.head?_reverse]), List.reverse_reverse]

/-- And only such a text does. -/
theorem trim_eq_self_iff {text : List Char} :
    trim text = text ↔ text.head?.all (!isBlank ·) ∧ text.getLast?.all (!isBlank ·) := by
  refine ⟨fun h => ⟨?_, ?_⟩, fun ⟨hstart, hend⟩ => trim_eq_self hstart hend⟩
  · cases text with
    | nil => rfl
    | cons c rest =>
      show (!isBlank c) = true
      rw [Bool.not_eq_true', ← Bool.not_eq_true]
      intro hc
      -- Without the blank the text is too short to be what is left.
      rw [trim_cons_of_isBlank hc] at h
      have hlength := (isInfix_trim rest).length_le
      rw [h, List.length_cons] at hlength
      omega
  · rcases List.eq_nil_or_concat text with rfl | ⟨start, c, rfl⟩
    · rfl
    · rw [List.concat_eq_append] at h ⊢
      rw [List.getLast?_append, List.getLast?_singleton]
      show (!isBlank c) = true
      rw [Bool.not_eq_true', ← Bool.not_eq_true]
      intro hc
      rw [trim_concat_of_isBlank hc] at h
      have hlength := (isInfix_trim start).length_le
      rw [h, List.length_append, List.length_singleton] at hlength
      omega

/-- A string without the blanks at its start and at its end. -/
def trimmed (text : String) : String :=
  String.ofList (trim text.toList)

/-- `text` with spaces after it up to `width` characters; a longer text stays as it is. -/
def padRight (width : Nat) (text : String) : String :=
  text ++ String.ofList (List.replicate (width - text.length) ' ')

end Frontend.Text
