import Mathlib.Tactic.SplitIfs
import Frontend.Script.Split

namespace Frontend.Script

open Text

/-!
# One scan of a script

The commands of a script come out of one scan of its text from left to right, which keeps nothing
but a buffer and whether a comment is running.

* `startsComment`, `isBrace` — what the scan asks of the characters it comes to;
* `flush` — what it emits where a command ends, and `scan` the scan itself;
* `scan_append_newline`, `scan_append_semicolon` — where a scan can be taken up afresh;
* `scan_trim` — blanks around a text change nothing;
* `commands_eq_scan` — the scan emits the commands of the script.
-/

/-! ### The scan -/

/-- Whether a comment starts right here. -/
def startsComment : List Char → Bool
  | '#' :: _ => true
  | '/' :: '/' :: _ => true
  | _ => false

/-- Whether a character is a brace. -/
def isBrace (c : Char) : Bool := c == '\x7b' || c == '\x7d'

/-- What is emitted where a command ends: the buffer, trimmed, unless nothing is left of it. -/
def flush (buffer : List Char) : List (List Char) :=
  if (trim buffer).isEmpty then [] else [trim buffer]

/-- Scans a text from left to right.  In a comment, which is `hidden`, everything up to the next
    newline is swallowed; elsewhere a character ends the command in the buffer, or is a command of
    its own, or joins the buffer. -/
def scan (hidden : Bool) (buffer : List Char) : List Char → List (List Char)
  | [] => flush buffer
  | c :: rest =>
    if c = '\n' then flush buffer ++ scan false [] rest
    else if hidden then scan true buffer rest
    else if startsComment (c :: rest) then scan true buffer rest
    else if c = ';' then flush buffer ++ scan false [] rest
    else if isBrace c then flush buffer ++ [c] :: scan false [] rest
    else scan false (buffer ++ [c]) rest

@[simp] theorem flush_nil : flush [] = [] := rfl

/-- A comment starts with `#`, or with a slash before another. -/
theorem startsComment_cons (c : Char) (rest : List Char) :
    startsComment (c :: rest) = (c == '#' || c == '/' && rest.head? == some '/') := by
  unfold startsComment
  split
  · simp_all
  · simp_all
  · rename_i hhash hslash
    cases rest <;> simp_all

/-- Whether a comment starts does not depend on what stands from a character other than a slash
    on. -/
theorem startsComment_append {d : Char} (hslash : d ≠ '/') (c : Char) (rest after : List Char) :
    startsComment (c :: (rest ++ d :: after)) = startsComment (c :: rest) := by
  cases rest <;> simp [startsComment_cons, hslash]

/-- No comment starts in a text that holds neither of the two marks. -/
theorem startsComment_eq_false {text : List Char} (hhash : '#' ∉ text)
    (hslashes : ¬ ['/', '/'] <:+: text) : startsComment text = false := by
  unfold startsComment
  split
  · exact absurd List.mem_cons_self hhash
  · rename_i rest
    exact absurd (List.prefix_append ['/', '/'] rest).isInfix hslashes
  · rfl

/-! ### Where a scan is taken up afresh -/

/-- After a newline a scan starts anew, whatever came before. -/
theorem scan_append_newline (hidden : Bool) (buffer first second : List Char) :
    scan hidden buffer (first ++ '\n' :: second) =
      scan hidden buffer first ++ scan false [] second := by
  induction first generalizing hidden buffer with
  | nil => simp [scan]
  | cons c first ih =>
    rw [List.cons_append, scan, scan, startsComment_append (by decide)]
    split_ifs <;> simp [ih]

/-- After a semicolon a scan starts anew if it comes to it outside a comment. -/
theorem scan_append_semicolon {line : List Char} (hhash : '#' ∉ line)
    (hslashes : ¬ ['/', '/'] <:+: line) (buffer second : List Char) :
    scan false buffer (line ++ ';' :: second) = scan false buffer line ++ scan false [] second := by
  induction line generalizing buffer with
  | nil => simp [scan, startsComment]
  | cons c line ih =>
    have hvisible := startsComment_eq_false hhash hslashes
    have ih' := ih (List.not_mem_of_not_mem_cons hhash)
      fun hinside => hslashes (List.infix_cons hinside)
    rw [List.cons_append, scan, scan, startsComment_append (by decide), hvisible]
    split_ifs <;> simp_all

/-! ### Blanks -/

/-- A blank before a command is not part of it. -/
theorem flush_cons_of_isBlank {c : Char} (h : isBlank c = true) (buffer : List Char) :
    flush (c :: buffer) = flush buffer := by
  rw [flush, flush, trim_cons_of_isBlank h]

/-- A blank after a command is not part of it. -/
theorem flush_concat_of_isBlank {c : Char} (h : isBlank c = true) (buffer : List Char) :
    flush (buffer ++ [c]) = flush buffer := by
  rw [flush, flush, trim_concat_of_isBlank h]

/-- A brace is emitted as it is. -/
theorem flush_brace {c : Char} (h : isBrace c = true) : flush [c] = [[c]] := by
  simp only [isBrace, Bool.or_eq_true, beq_iff_eq] at h
  rcases h with rfl | rfl <;> rfl

/-- A blank other than a newline joins the buffer. -/
theorem scan_blank {c : Char} (h : isBlank c = true) (hidden : Bool) (buffer rest : List Char) :
    scan hidden buffer (c :: rest) =
      if c = '\n' then flush buffer ++ scan false [] rest
      else if hidden then scan true buffer rest
      else scan false (buffer ++ [c]) rest := by
  have hne : ∀ d, isBlank d = false → c ≠ d := fun d hd heq => by simp [heq, hd] at h
  have hhash := hne '#' rfl
  have hslash := hne '/' rfl
  have hsemicolon := hne ';' rfl
  have hopening := hne '\x7b' rfl
  have hclosing := hne '\x7d' rfl
  simp [scan, startsComment_cons, isBrace, hhash, hslash, hsemicolon, hopening, hclosing]

/-- A blank at the start of the buffer makes no difference. -/
theorem scan_buffer_cons_of_isBlank {c : Char} (h : isBlank c = true) (hidden : Bool)
    (buffer text : List Char) : scan hidden (c :: buffer) text = scan hidden buffer text := by
  induction text generalizing hidden buffer with
  | nil => exact flush_cons_of_isBlank h buffer
  | cons d text ih =>
    rw [scan, scan, flush_cons_of_isBlank h, List.cons_append]
    simp only [ih]

/-- A blank at the start of a text makes no difference. -/
theorem scan_cons_of_isBlank {c : Char} (h : isBlank c = true) (text : List Char) :
    scan false [] (c :: text) = scan false [] text := by
  rw [scan_blank h]
  split
  · rfl
  · exact scan_buffer_cons_of_isBlank h false [] text

/-- A blank at the end of a text makes no difference. -/
theorem scan_concat_of_isBlank {c : Char} (h : isBlank c = true) (hidden : Bool)
    (buffer text : List Char) : scan hidden buffer (text ++ [c]) = scan hidden buffer text := by
  induction text generalizing hidden buffer with
  | nil =>
    rw [List.nil_append, scan_blank h]
    split_ifs <;> simp [scan, flush_concat_of_isBlank h]
  | cons d text ih =>
    -- A blank is no slash, so it cannot make a comment of a slash before it.
    have hslash : c ≠ '/' := fun heq => by subst heq; cases h
    rw [List.cons_append, scan, scan, startsComment_append hslash]
    simp only [ih]

/-- Blanks around a text make no difference. -/
theorem scan_trim (text : List Char) : scan false [] (trim text) = scan false [] text :=
  eq_of_trim (fun _ text h => scan_cons_of_isBlank h text)
    (fun _ text h => scan_concat_of_isBlank h false [] text) text

/-! ### The commands of a line -/

/-- Where the first comment of a line begins, character by character. -/
theorem commentStart_cons (c : Char) (rest : List Char) :
    commentStart (c :: rest) =
      if startsComment (c :: rest) then 0 else commentStart rest + 1 := by
  have hstarts : startsComment (c :: rest) =
      (['#'].isPrefixOf (c :: rest) || ['/', '/'].isPrefixOf (c :: rest)) := by
    rw [startsComment_cons]
    cases rest <;> simp [List.isPrefixOf, Bool.beq_comm]
  rw [hstarts]
  -- Either mark stands here or is looked for from the next character on.
  simp only [commentStart, commentMarks, List.filterMap_cons, List.filterMap_nil, place?]
  cases ['#'].isPrefixOf (c :: rest) <;> cases ['/', '/'].isPrefixOf (c :: rest) <;>
    cases place? ['#'] rest <;> cases place? ['/', '/'] rest <;>
    simp [List.min?_cons]

/-- A character is kept unless a comment starts with it. -/
theorem beforeComment_cons (c : Char) (rest : List Char) :
    beforeComment (c :: rest) =
      if startsComment (c :: rest) then [] else c :: beforeComment rest := by
  rw [beforeComment, commentStart_cons]
  split
  · rfl
  · rfl

/-- A brace is set apart, and any other character stays as it is. -/
theorem isolateBraces_cons (c : Char) (rest : List Char) :
    isolateBraces (c :: rest) =
      (if isBrace c then [';', c, ';'] else [c]) ++ isolateBraces rest := by
  have hfirst : isolateBraces [c] = if isBrace c then [';', c, ';'] else [c] := by
    by_cases hopening : c = '\x7b'
    · subst hopening
      rfl
    · by_cases hclosing : c = '\x7d'
      · subst hclosing
        rfl
      · simp [isolateBraces, substitute, isBrace, hopening, hclosing]
  rw [← hfirst, isolateBraces, isolateBraces, isolateBraces, ← substitute_append,
    ← substitute_append, List.singleton_append]

/-- The texts between the semicolons of a line, comment left out and braces set apart. -/
def segments (line : List Char) : List (List Char) :=
  splitWhere (· == ';') (isolateBraces (beforeComment line))

theorem segments_cons (c : Char) (rest : List Char) :
    segments (c :: rest) =
      if startsComment (c :: rest) then [[]]
      else if c = ';' then [] :: segments rest
      else if isBrace c then [] :: [c] :: segments rest
      else (segments rest).modifyHead (c :: ·) := by
  rw [segments, beforeComment_cons]
  split_ifs with hstarts hsemicolon hbrace
  · rfl
  · subst hsemicolon
    rw [isolateBraces_cons]
    exact splitWhere_cons_of_pos rfl _
  · rw [isolateBraces_cons, if_pos hbrace]
    simp [splitWhere_cons_of_pos, splitWhere_cons_of_neg, hsemicolon, segments]
  · rw [isolateBraces_cons, if_neg hbrace]
    exact splitWhere_cons_of_neg (by simpa using hsemicolon) _

theorem segments_ne_nil (line : List Char) : segments line ≠ [] :=
  splitWhere_ne_nil _ _

/-- A line is flushed segment by segment. -/
theorem lineCommands_eq_flatMap (line : List Char) :
    lineCommands line = (segments line).flatMap flush := by
  rw [lineCommands, ← segments]
  induction segments line with
  | nil => rfl
  | cons segment segments ih =>
    rw [List.flatMap_cons, List.map_cons, List.filter_cons, ih, flush]
    cases (trim segment).isEmpty <;> rfl

/-- A comment hides the rest of its line. -/
theorem scan_hidden_line {line : List Char} (h : '\n' ∉ line) (buffer : List Char) :
    scan true buffer line = flush buffer := by
  induction line with
  | nil => rfl
  | cons c line ih =>
    have hnewline : c ≠ '\n' := (List.ne_of_not_mem_cons h).symm
    rw [scan, if_neg hnewline, if_pos rfl, ih (List.not_mem_of_not_mem_cons h)]

/-- On one line a scan flushes the segments, the first of them after what the buffer holds. -/
theorem scan_line {line : List Char} (h : '\n' ∉ line) (buffer : List Char) :
    scan false buffer line = ((segments line).modifyHead (buffer ++ ·)).flatMap flush := by
  induction line generalizing buffer with
  | nil => simp [scan, segments, isolateBraces, substitute, beforeComment]
  | cons c line ih =>
    have hnewline : c ≠ '\n' := (List.ne_of_not_mem_cons h).symm
    have hline : '\n' ∉ line := List.not_mem_of_not_mem_cons h
    -- The buffer is what has been kept of the first segment, so only that one takes it up.
    obtain ⟨first, others, hsegments⟩ := List.exists_cons_of_ne_nil (segments_ne_nil line)
    rw [scan, segments_cons, if_neg hnewline, if_neg Bool.false_ne_true, hsegments]
    split_ifs with hstarts hsemicolon hbrace
    · simp [scan_hidden_line hline]
    · simp [ih hline, hsegments]
    · simp [ih hline, hsegments, flush_brace hbrace]
    · simp [ih hline, hsegments]

/-- The commands of a line are what a scan of it emits. -/
theorem lineCommands_eq_scan {line : List Char} (h : '\n' ∉ line) :
    lineCommands line = scan false [] line := by
  obtain ⟨first, others, hsegments⟩ := List.exists_cons_of_ne_nil (segments_ne_nil line)
  rw [lineCommands_eq_flatMap, scan_line h, hsegments]
  rfl

/-- A carriage return at the end of a line makes no difference. -/
theorem lineCommands_withoutReturn {line : List Char} (h : '\n' ∉ line) :
    lineCommands (withoutReturn line) = scan false [] line := by
  rcases eq_or_eq_concat_withoutReturn line with hsame | hreturn
  · rw [← hsame, lineCommands_eq_scan h]
  · have hshorter : '\n' ∉ withoutReturn line := fun hmem =>
      h (hreturn ▸ List.mem_append_left _ hmem)
    have hblank := scan_concat_of_isBlank (c := '\r') rfl false [] (withoutReturn line)
    rw [← hreturn] at hblank
    rw [lineCommands_eq_scan hshorter, hblank]

/-! ### The commands of a script -/

/-- **The commands of a script are what one scan of it emits.** -/
theorem commands_eq_scan (source : List Char) : commands source = scan false [] source := by
  induction source using linewise with
  | last line h =>
    rw [commands, lines_of_notMem h, ← lineCommands_eq_scan h]
    cases line <;> simp
    rfl
  | line line rest h ih =>
    rw [commands, lines_append_newline h, List.flatMap_cons, lineCommands_withoutReturn h,
      ← commands, ih, scan_append_newline]

/-- **A script is cut into commands by one scan**: for every text, what the lines, comment marks,
    braces, semicolons and blanks of it make together is what the scan makes character by
    character. -/
theorem split_eq_scan (source : String) :
    split source = (scan false [] source.toList).map String.ofList := by
  rw [split, commands_eq_scan]

/-- A single slash is no comment, not even before a brace or at the end of a line, and a carriage
    return is a blank like others. -/
example :
    scan false [] "a/\x7b/ #\x7d;\r\n/\r\n/ b\rc// d".toList =
      [['a', '/'], ['\x7b'], ['/'], ['/'], ['/', ' ', 'b', '\r', 'c']] := by decide +kernel

end Frontend.Script
