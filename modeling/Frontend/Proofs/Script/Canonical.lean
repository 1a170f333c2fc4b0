import Frontend.Proofs.Script.Scan

namespace Frontend.Script

open Text

/-!
# Canonical commands

What the commands of a script look like, and that nothing else is asked of a text to be one.

* `Plain` — the texts that a scan reads to their end without a break;
* `Canonical` — the texts that can be a command: plain ones without blanks at their ends, and
  braces;
* `canonical_of_mem_commands` — every command of a script is canonical;
* `commands_of_canonical` — a canonical text is cut into itself.
-/

/-! ### Plain texts -/

/-- A text in which nothing ends a command and no comment starts. -/
structure Plain (text : List Char) : Prop where
  newline : '\n' ∉ text
  semicolon : ';' ∉ text
  hash : '#' ∉ text
  brace : ∀ c ∈ text, isBrace c = false
  slashes : ¬ ['/', '/'] <:+: text

namespace Plain

theorem nil : Plain [] := by
  constructor <;> simp

/-- A part of a plain text is plain. -/
theorem of_isInfix {part text : List Char} (h : Plain text) (hpart : part <:+: text) :
    Plain part where
  newline hmem := h.newline (hpart.subset hmem)
  semicolon hmem := h.semicolon (hpart.subset hmem)
  hash hmem := h.hash (hpart.subset hmem)
  brace c hmem := h.brace c (hpart.subset hmem)
  slashes hslashes := h.slashes (hslashes.trans hpart)

/-- A plain text stays plain with one more character, unless that breaks it or makes a comment of
    a slash at its end. -/
theorem concat {text : List Char} {c : Char} (h : Plain text) (hnewline : c ≠ '\n')
    (hsemicolon : c ≠ ';') (hhash : c ≠ '#') (hbrace : isBrace c = false)
    (hslash : text.getLast? = some '/' → c ≠ '/') : Plain (text ++ [c]) where
  newline := by simpa [h.newline] using hnewline.symm
  semicolon := by simpa [h.semicolon] using hsemicolon.symm
  hash := by simpa [h.hash] using hhash.symm
  brace := by
    intro d hd
    rcases List.mem_append.mp hd with hd | hd
    · exact h.brace d hd
    · rw [List.mem_singleton.mp hd]
      exact hbrace
  slashes := by
    -- Two slashes lie in the old text, or the new character is the second of them.
    rw [List.infix_concat_iff, not_or]
    refine ⟨fun hend => ?_, h.slashes⟩
    obtain ⟨before, hbefore⟩ := hend
    have hsplit : (before ++ ['/']) ++ ['/'] = text ++ [c] := by simpa using hbefore
    obtain ⟨rfl, hlast⟩ := List.append_inj' hsplit rfl
    cases hlast
    exact hslash (by simp) rfl

/-- A plain text stays plain after one more character, unless that breaks it or is a slash. -/
theorem cons {text : List Char} {c : Char} (h : Plain text) (hnewline : c ≠ '\n')
    (hsemicolon : c ≠ ';') (hhash : c ≠ '#') (hbrace : isBrace c = false) (hslash : c ≠ '/') :
    Plain (c :: text) where
  newline := by simpa [h.newline] using hnewline.symm
  semicolon := by simpa [h.semicolon] using hsemicolon.symm
  hash := by simpa [h.hash] using hhash.symm
  brace := List.forall_mem_cons.mpr ⟨hbrace, h.brace⟩
  slashes := by
    rw [List.infix_cons_iff, not_or, List.cons_prefix_cons]
    exact ⟨fun hstart => hslash hstart.1.symm, h.slashes⟩

/-- A scan takes a plain text into its buffer. -/
theorem scan_eq {text : List Char} (h : Plain text) (buffer : List Char) :
    scan false buffer text = flush (buffer ++ text) := by
  induction text generalizing buffer with
  | nil => rw [scan, List.append_nil]
  | cons c rest ih =>
    have hvisible := startsComment_eq_false h.hash h.slashes
    have hnewline := List.ne_of_not_mem_cons h.newline
    have hsemicolon := List.ne_of_not_mem_cons h.semicolon
    have hbrace := h.brace c List.mem_cons_self
    have hrest : Plain rest := h.of_isInfix (List.infix_cons List.infix_rfl)
    rw [scan, if_neg hnewline.symm, if_neg Bool.false_ne_true, hvisible,
      if_neg Bool.false_ne_true, if_neg hsemicolon.symm, hbrace, if_neg Bool.false_ne_true,
      ih hrest, List.append_assoc, List.singleton_append]

end Plain

/-! ### Canonical texts -/

/-- A text that can be a command of a script. -/
structure Canonical (command : List Char) : Prop where
  ne_nil : command ≠ []
  /-- There is no blank at either end. -/
  trim_eq : trim command = command
  /-- Where a brace is, nothing else is. -/
  plain_or_brace : Plain command ∨ ∃ c, isBrace c = true ∧ command = [c]

/-- A brace is a command. -/
theorem canonical_brace {c : Char} (h : isBrace c = true) : Canonical [c] := by
  refine ⟨List.cons_ne_nil _ _, ?_, .inr ⟨c, h, rfl⟩⟩
  simp only [isBrace, Bool.or_eq_true, beq_iff_eq] at h
  rcases h with rfl | rfl <;> rfl

/-- What is flushed of a plain buffer is canonical. -/
theorem canonical_of_mem_flush {buffer command : List Char} (hbuffer : Plain buffer)
    (h : command ∈ flush buffer) : Canonical command := by
  unfold flush at h
  split at h
  · cases h
  · rename_i hne
    rw [List.mem_singleton.mp h]
    exact ⟨by simpa using hne, trim_trim buffer, .inl (hbuffer.of_isInfix (isInfix_trim buffer))⟩

/-- A scan that has a plain buffer emits canonical commands, unless it stands between the two
    slashes of a comment. -/
theorem canonical_of_mem_scan {hidden : Bool} {buffer text command : List Char}
    (hbuffer : Plain buffer)
    (hslash : hidden = false → buffer.getLast? = some '/' → text.head? ≠ some '/')
    (h : command ∈ scan hidden buffer text) : Canonical command := by
  -- The buffer stays plain all along: what would break it is never put into it.
  induction text generalizing hidden buffer with
  | nil => exact canonical_of_mem_flush hbuffer h
  | cons c rest ih =>
    have hafresh (hrest : command ∈ scan false [] rest) : Canonical command :=
      ih .nil (by simp) hrest
    rw [scan] at h
    split_ifs at h with hnewline hhidden hstarts hsemicolon hbrace
    · exact (List.mem_append.mp h).elim (canonical_of_mem_flush hbuffer) hafresh
    · exact ih hbuffer (by simp) h
    · exact ih hbuffer (by simp) h
    · exact (List.mem_append.mp h).elim (canonical_of_mem_flush hbuffer) hafresh
    · rw [List.mem_append, List.mem_cons] at h
      rcases h with h | rfl | h
      · exact canonical_of_mem_flush hbuffer h
      · exact canonical_brace hbrace
      · exact hafresh h
    · -- No comment starts here, so this is no `#`, and no slash with another one after it.
      rw [startsComment_cons] at hstarts
      simp only [Bool.or_eq_true, Bool.and_eq_true, beq_iff_eq, not_or, not_and] at hstarts
      have hfirst : buffer.getLast? = some '/' → c ≠ '/' := by
        intro hlast hc
        exact hslash (by simpa using hhidden) hlast (by rw [hc]; rfl)
      have hplain := hbuffer.concat hnewline hsemicolon hstarts.1 (by simpa using hbrace) hfirst
      refine ih hplain (fun _ hlast => hstarts.2 ?_) h
      simpa using hlast

/-! ### Commands -/

/-- **Every command of a script is canonical.** -/
theorem canonical_of_mem_commands {source command : List Char} (h : command ∈ commands source) :
    Canonical command := by
  rw [commands_eq_scan] at h
  exact canonical_of_mem_scan .nil (by simp) h

/-- **A canonical text is a script of one command, itself.** -/
theorem commands_of_canonical {command : List Char} (h : Canonical command) :
    commands command = [command] := by
  rw [commands_eq_scan]
  rcases h.plain_or_brace with hplain | ⟨c, hbrace, rfl⟩
  · rw [hplain.scan_eq, List.nil_append, flush, h.trim_eq, if_neg (by simpa using h.ne_nil)]
  · simp only [isBrace, Bool.or_eq_true, beq_iff_eq] at hbrace
    rcases hbrace with rfl | rfl <;> rfl

/-- The same on strings. -/
theorem Canonical.split_eq {command : String} (h : Canonical command.toList) :
    split command = [command] := by
  rw [split, commands_of_canonical h, List.map_singleton, String.ofList_toList]

end Frontend.Script
