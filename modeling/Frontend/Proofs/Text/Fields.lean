import Frontend.Text.Split

namespace Frontend.Text

/-!
# The fields of a text

A text that was put together out of pieces, with something between them that none of the pieces
holds, can be taken apart again.

* `fields p` — what stands between the elements that satisfy `p`, unless it is empty; the words of
  a text are its fields between blanks (`words_eq_fields`);
* `numbers` — the numbers written in a text, its fields of digits;
* `eq_of_join_lines` — a text of whole lines tells these lines;
* `cutLast` — a text cut at the last of its marks;
* `fields_append`, `numbers_append` — a separator keeps the fields before it and after it apart.
-/

variable {α : Type} {p : α → Bool}

/-! ### Fields -/

/-- What stands between the elements of a text that satisfy `p`, empty pieces left out. -/
def fields (p : α → Bool) (text : List α) : List (List α) :=
  (splitWhere p text).filter fun piece => !piece.isEmpty

theorem words_eq_fields (text : List Char) : words text = fields isBlank text := rfl

/-- A separator ends a field and begins another. -/
theorem fields_append {c : α} (h : p c = true) (before after : List α) :
    fields p (before ++ c :: after) = fields p before ++ fields p after := by
  rw [fields, splitWhere_append h, List.filter_append]
  rfl

/-- A separator at the start is no part of a field. -/
theorem fields_cons_of_pos {c : α} (h : p c = true) (text : List α) :
    fields p (c :: text) = fields p text :=
  fields_append h [] text

/-- What has no separator is one piece. -/
theorem splitWhere_of_forall {text : List α} (h : ∀ c ∈ text, p c = false) :
    splitWhere p text = [text] := by
  induction text with
  | nil => rfl
  | cons c text ih =>
    rw [List.forall_mem_cons] at h
    rw [splitWhere_cons_of_neg h.1, ih h.2]
    rfl

/-- What has no separator is one field, unless it is empty. -/
theorem fields_of_forall {text : List α} (hne : text ≠ []) (h : ∀ c ∈ text, p c = false) :
    fields p text = [text] := by
  rw [fields, splitWhere_of_forall h]
  simpa using hne

/-- The first piece reaches up to the first separator. -/
theorem head?_splitWhere (p : α → Bool) (text : List α) :
    (splitWhere p text).head? = some (text.takeWhile fun c => !p c) := by
  induction text with
  | nil => rfl
  | cons c text ih =>
    cases hc : p c with
    | true =>
      rw [splitWhere_cons_of_pos hc, List.takeWhile_cons_of_neg (by simp [hc])]
      rfl
    | false =>
      rw [splitWhere_cons_of_neg hc, List.head?_modifyHead, ih,
        List.takeWhile_cons_of_pos (by simp [hc])]
      rfl

/-- A piece is a part of the text without a separator. -/
theorem of_mem_splitWhere {text piece : List α} (h : piece ∈ splitWhere p text) :
    piece <:+: text ∧ ∀ c ∈ piece, p c = false := by
  induction text generalizing piece with
  | nil =>
    rw [splitWhere_nil, List.mem_singleton] at h
    simp [h]
  | cons c text ih =>
    cases hc : p c with
    | true =>
      rw [splitWhere_cons_of_pos hc, List.mem_cons] at h
      rcases h with rfl | h
      · simp
      · exact ⟨List.infix_cons (ih h).1, (ih h).2⟩
    | false =>
      obtain ⟨first, others, hpieces⟩ := List.exists_cons_of_ne_nil (splitWhere_ne_nil p text)
      rw [splitWhere_cons_of_neg hc, hpieces, List.modifyHead_cons, List.mem_cons] at h
      rcases h with rfl | h
      · -- The first piece begins where the text does, so it is longer by this element.
        have hfirst := head?_splitWhere p text
        rw [hpieces, List.head?_cons, Option.some.injEq] at hfirst
        have hprefix : first <+: text := hfirst ▸ List.takeWhile_prefix _
        have hnone := (ih (hpieces ▸ List.mem_cons_self)).2
        exact ⟨(List.cons_prefix_cons.mpr ⟨rfl, hprefix⟩).isInfix,
          List.forall_mem_cons.mpr ⟨hc, hnone⟩⟩
      · have hother := ih (hpieces ▸ List.mem_cons_of_mem _ h)
        exact ⟨List.infix_cons hother.1, hother.2⟩

/-- A word is a part of the text, not empty and without a blank. -/
theorem of_mem_words {text word : List Char} (h : word ∈ words text) :
    word ≠ [] ∧ word <:+: text ∧ ∀ c ∈ word, isBlank c = false := by
  rw [words, List.mem_filter] at h
  exact ⟨by simpa using h.2, of_mem_splitWhere h.1⟩

/-! ### Lines -/

/-- A text of whole lines is cut into these lines. -/
theorem splitWhere_join {lines : List String} (h : ∀ line ∈ lines, '\n' ∉ line.toList) :
    splitWhere (· == '\n') (String.join (lines.map (· ++ "\n"))).toList =
      lines.map String.toList ++ [[]] := by
  induction lines with
  | nil => rfl
  | cons line rest ih =>
    rw [List.forall_mem_cons] at h
    have htext : (String.join ((line :: rest).map (· ++ "\n"))).toList =
        line.toList ++ '\n' :: (String.join (rest.map (· ++ "\n"))).toList := by
      simp [String.join_cons]
    rw [htext, splitWhere_append (by rfl), splitWhere_of_notMem h.1, ih h.2]
    rfl

/-- So it tells them. -/
theorem eq_of_join_lines {first second : List String}
    (hfirst : ∀ line ∈ first, '\n' ∉ line.toList) (hsecond : ∀ line ∈ second, '\n' ∉ line.toList)
    (h : String.join (first.map (· ++ "\n")) = String.join (second.map (· ++ "\n"))) :
    first = second := by
  have hpieces := congrArg (splitWhere (· == '\n') ·.toList) h
  simp only [splitWhere_join hfirst, splitWhere_join hsecond] at hpieces
  exact (List.map_inj_right fun _ _ => String.toList_inj.mp).mp (List.append_cancel_right hpieces)

/-! ### The last mark -/

/-- What stands before the last `mark` of a text, and what stands after it. -/
def cutLast [BEq α] (mark : α) (text : List α) : List α × List α :=
  ((text.reverse.dropWhile (· != mark)).tail.reverse,
    (text.reverse.takeWhile (· != mark)).reverse)

/-- A text is cut at a mark that none follows, whatever stands before it. -/
theorem cutLast_append [BEq α] [LawfulBEq α] {mark : α} {after : List α} (h : mark ∉ after)
    (before : List α) : cutLast mark (before ++ mark :: after) = (before, after) := by
  have hnone : ∀ c ∈ after.reverse, (c != mark) = true := by
    intro c hc
    rw [bne_iff_ne]
    rintro rfl
    exact h (List.mem_reverse.mp hc)
  have hmark : ¬ (mark != mark) = true := by simp
  rw [cutLast, List.reverse_append, List.reverse_cons, List.append_assoc, List.singleton_append,
    List.dropWhile_append_of_pos hnone, List.dropWhile_cons_of_neg (p := (· != mark)) hmark,
    List.tail_cons, List.takeWhile_append_of_pos hnone,
    List.takeWhile_cons_of_neg (p := (· != mark)) hmark, List.append_nil, List.reverse_reverse,
    List.reverse_reverse]

/-! ### Numbers -/

/-- The numbers written in a text, one for each row of digits. -/
def numbers (text : List Char) : List Nat :=
  (fields (!·.isDigit) text).map (Nat.ofDigitChars 10 · 0)

/-- What is no digit ends a number. -/
theorem numbers_append {c : Char} (h : c.isDigit = false) (before after : List Char) :
    numbers (before ++ c :: after) = numbers before ++ numbers after := by
  rw [numbers, fields_append (by simp [h]), List.map_append]
  rfl

/-- What is no digit is no part of a number. -/
theorem numbers_cons {c : Char} (h : c.isDigit = false) (text : List Char) :
    numbers (c :: text) = numbers text :=
  numbers_append h [] text

theorem isDigit_of_mem_repr {n : Nat} {c : Char} (h : c ∈ n.repr.toList) : c.isDigit = true := by
  rw [Nat.repr_eq_ofList_toDigits, String.toList_ofList] at h
  exact Nat.isDigit_of_mem_toDigits (by decide) (by decide) h

/-- No digit is a blank. -/
theorem isBlank_of_isDigit {c : Char} (h : c.isDigit = true) : isBlank c = false := by
  delta Char.isDigit at h
  simp only [Bool.and_eq_true, decide_eq_true_eq, ge_iff_le, UInt32.le_iff_toNat_le] at h
  have hnone : ∀ n ≤ 57, 48 ≤ n → inRanges blankRanges n = false := by decide
  exact hnone c.toNat h.2 h.1

theorem repr_toList_ne_nil (n : Nat) : n.repr.toList ≠ [] := by
  simp [Nat.repr_eq_ofList_toDigits, Nat.toDigits_ne_nil]

/-- A number is a word. -/
theorem words_repr (n : Nat) : words n.repr.toList = [n.repr.toList] :=
  fields_of_forall (repr_toList_ne_nil n) fun _ hc => isBlank_of_isDigit (isDigit_of_mem_repr hc)

/-- A number that was written is read. -/
theorem numbers_repr (n : Nat) : numbers n.repr.toList = [n] := by
  have hdigits : ∀ c ∈ n.repr.toList, (!c.isDigit) = false := fun c hc => by
    simp [isDigit_of_mem_repr hc]
  rw [numbers, fields_of_forall (repr_toList_ne_nil n) hdigits, Nat.repr_eq_ofList_toDigits,
    String.toList_ofList, List.map_singleton, Nat.ofDigitChars_ten_toDigits]

/-- Two numbers are not written the same. -/
theorem eq_of_repr_eq {m n : Nat} (h : m.repr = n.repr) : m = n := by
  have hnumbers := congrArg (numbers ·.toList) h
  simpa only [numbers_repr, List.cons.injEq, and_true] using hnumbers

theorem newline_notMem_repr (n : Nat) : '\n' ∉ n.repr.toList := by
  intro h
  cases isDigit_of_mem_repr h

theorem newline_notMem_int_repr (n : Int) : '\n' ∉ n.repr.toList := by
  cases n with
  | ofNat m => exact newline_notMem_repr m
  | negSucc m =>
    have htext : (Int.negSucc m).repr = "-" ++ (m + 1).repr := rfl
    rw [htext, String.toList_append, List.mem_append, not_or]
    exact ⟨by decide +kernel, newline_notMem_repr (m + 1)⟩

/-- Two numbers that may be below zero are not written the same either. -/
theorem eq_of_int_repr_eq {a b : Int} (h : a.repr = b.repr) : a = b := by
  have hsign {m n : Nat} : m.repr ≠ "-" ++ n.repr := by
    intro hboth
    have hmem : '-' ∈ m.repr.toList := by simp [hboth]
    cases isDigit_of_mem_repr hmem
  cases a with
  | ofNat m =>
    cases b with
    | ofNat n => rw [eq_of_repr_eq h]
    | negSucc n => exact absurd h hsign
  | negSucc m =>
    cases b with
    | ofNat n => exact absurd h.symm hsign
    | negSucc n =>
      have hdigits : (m + 1).repr = (n + 1).repr := (String.append_right_inj "-").mp h
      rw [Nat.succ.inj (eq_of_repr_eq hdigits)]

/-- The numbers of a text are found wherever they stand in it. -/
example : numbers "Count: 12, (7)/0".toList = [12, 7, 0] := by decide +kernel

end Frontend.Text
