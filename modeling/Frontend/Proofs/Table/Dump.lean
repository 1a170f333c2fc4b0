import Frontend.Proofs.Table.WellNested
import Frontend.Proofs.Text.Fields
import Frontend.Script.Execute
import Mathlib.Tactic.SplitIfs

namespace Frontend

open Text (eq_of_join_lines isBlank newline_notMem_repr numbers numbers_append numbers_repr
  words words_eq_fields)

/-!
# Reading a dump back

A dump tells all about the open scopes, as long as no name has a blank in it.

* `Entry.Unbroken` — a name without blanks;
* `Entry.eq_of_line_eq` — the row of such an entry tells the entry;
* `Scope.shown_eq_of_lines` — the lines of a scope tell the scope, and where they end;
* `Table.map_shown_eq_of_dump` — the text of a dump tells its scopes, but for the level around each;
* `Table.WellNested.scopes_eq` — the enclosing levels follow from the others;
* `Table.dump_eq_iff` — so two tables with the same dump have the same scopes.
-/

/-! ### Rows -/

/-- Whether the name of an entry has no blank in it. -/
def Entry.Unbroken (entry : Entry) : Prop := ∀ c ∈ entry.name.toList, isBlank c = false

instance (entry : Entry) : Decidable entry.Unbroken :=
  decidable_of_iff (entry.name.toList.all (!isBlank ·) = true) (by simp [Entry.Unbroken])

theorem DataType.name_injective {a b : DataType} (h : a.name = b.name) : a = b := by
  revert h
  cases a <;> cases b <;> decide

theorem words_spaces (count : Nat) (rest : List Char) :
    words (List.replicate count ' ' ++ rest) = words rest := by
  induction count with
  | zero => rfl
  | succ count ih =>
    rw [List.replicate_succ, List.cons_append, words_eq_fields, Text.fields_cons_of_pos rfl]
    exact ih

/-- Padding adds no word. -/
theorem words_padRight (width : Nat) (text : String) (rest : List Char) :
    words ((Text.padRight width text).toList ++ ' ' :: rest) = words text.toList ++ words rest := by
  have htext : (Text.padRight width text).toList ++ ' ' :: rest =
      text.toList ++ ' ' :: (List.replicate (width - text.length) ' ' ++ rest) := by
    rw [Text.padRight, String.toList_append, String.toList_ofList, List.append_assoc,
      List.append_cons (List.replicate _ _), ← List.replicate_succ', List.replicate_succ,
      List.cons_append]
  rw [htext, words_eq_fields, Text.fields_append rfl, ← words_eq_fields, ← words_eq_fields,
    words_spaces]

/-- The words of a row.  An empty name is none of them. -/
theorem Entry.words_line (entry : Entry) :
    words entry.line.toList =
      "Name:".toList :: (words entry.name.toList ++
        ["|".toList, "Type:".toList, entry.type.name.toList, "|".toList, "Defined".toList,
          "Scope:".toList, entry.level.repr.toList]) := by
  have hline : entry.line = "  Name: " ++ Text.padRight 15 entry.name ++ " | Type: " ++
      Text.padRight 10 entry.type.name ++ " | Defined Scope: " ++ entry.level.repr := rfl
  have htext : entry.line.toList = "  Name:".toList ++ ' ' ::
      ((Text.padRight 15 entry.name).toList ++ ' ' :: ("| Type:".toList ++ ' ' ::
        ((Text.padRight 10 entry.type.name).toList ++ ' ' ::
          ("| Defined Scope:".toList ++ ' ' :: entry.level.repr.toList)))) := by
    simp [hline]
  have htype : words entry.type.name.toList = [entry.type.name.toList] := by
    cases entry.type <;> decide +kernel
  have hspace (before after : List Char) :
      words (before ++ ' ' :: after) = words before ++ words after := Text.fields_append rfl _ _
  rw [htext, hspace, words_padRight, hspace, words_padRight, hspace, htype, Text.words_repr]
  rfl

theorem words_of_unbroken {entry : Entry} (h : entry.Unbroken) :
    words entry.name.toList = if entry.name = "" then [] else [entry.name.toList] := by
  split
  · rename_i hempty
    rw [hempty]
    rfl
  · rename_i hne
    exact Text.fields_of_forall (by simpa using hne) h

/-- **A row tells its entry.** -/
theorem Entry.eq_of_line_eq {first second : Entry} (hfirst : first.Unbroken)
    (hsecond : second.Unbroken) (h : first.line = second.line) : first = second := by
  have hwords := congrArg (words ·.toList) h
  simp only [Entry.words_line, List.cons.injEq, true_and] at hwords
  -- The words after the name are as many in both rows.
  obtain ⟨hnames, hrest⟩ := List.append_inj' hwords (by simp)
  simp only [List.cons.injEq, true_and, and_true, String.toList_inj] at hrest
  obtain ⟨htype, hlevel⟩ := hrest
  have hname : first.name = second.name := by
    rw [words_of_unbroken hfirst, words_of_unbroken hsecond] at hnames
    split_ifs at hnames with hnone hnone' hnone'
    · rw [hnone, hnone']
    · simpa [String.toList_inj] using hnames
  obtain ⟨name, type, level⟩ := first
  obtain ⟨name', type', level'⟩ := second
  simp only [Entry.mk.injEq]
  exact ⟨hname, DataType.name_injective htype, Text.eq_of_repr_eq hlevel⟩

theorem map_line_injective {first second : List Entry} (hfirst : ∀ entry ∈ first, entry.Unbroken)
    (hsecond : ∀ entry ∈ second, entry.Unbroken)
    (h : first.map Entry.line = second.map Entry.line) : first = second := by
  induction first generalizing second with
  | nil => exact (List.map_eq_nil_iff.mp h.symm).symm
  | cons entry rest ih =>
    cases second with
    | nil => cases h
    | cons entry' rest' =>
      rw [List.forall_mem_cons] at hfirst hsecond
      rw [List.map_cons, List.map_cons, List.cons.injEq] at h
      rw [Entry.eq_of_line_eq hfirst.1 hsecond.1 h.1, ih hfirst.2 hsecond.2 h.2]

/-! ### Scopes -/

/-- A scope without what its lines do not tell, the enclosing level. -/
def Scope.shown (scope : Scope) : Scope := { scope with enclosing := none }

theorem Scope.eq_of_shown_eq {first second : Scope} (h : first.shown = second.shown)
    (henclosing : first.enclosing = second.enclosing) : first = second := by
  obtain ⟨level, enclosing, capacity, entries⟩ := first
  obtain ⟨level', enclosing', capacity', entries'⟩ := second
  simp only [shown, mk.injEq, true_and] at h henclosing ⊢
  exact ⟨h.1, henclosing, h.2⟩

/-- The first line of a scope. -/
def Scope.heading (scope : Scope) : String :=
  s!"Scope Level: {scope.level} (Capacity: {scope.capacity}, Count: {scope.count})"

theorem Scope.lines_eq (scope : Scope) :
    scope.lines = scope.heading :: dumpRule ::
      ((if scope.isEmpty then ["  (Scope is empty)"] else []) ++
        scope.entries.map Entry.line ++ [dumpRule]) := rfl

/-- The numbers of a heading. -/
theorem Scope.numbers_heading (scope : Scope) :
    numbers scope.heading.toList = [scope.level, scope.capacity, scope.count] := by
  have hheading : scope.heading = "Scope Level: " ++ scope.level.repr ++ " (Capacity: " ++
      scope.capacity.repr ++ ", Count: " ++ scope.count.repr ++ ")" := rfl
  have htext : scope.heading.toList = "Scope Level:".toList ++ ' ' :: (scope.level.repr.toList ++
      ' ' :: ("(Capacity:".toList ++ ' ' :: (scope.capacity.repr.toList ++ ',' ::
        (" Count:".toList ++ ' ' :: (scope.count.repr.toList ++ ')' :: []))))) := by
    simp [hheading]
  rw [htext, numbers_append rfl, numbers_append rfl, numbers_append rfl, numbers_append rfl,
    numbers_append rfl, numbers_append rfl, numbers_repr, numbers_repr, numbers_repr]
  rfl

theorem Scope.length_lines (scope : Scope) :
    scope.lines.length = scope.count + (if scope.isEmpty then 4 else 3) := by
  rw [lines_eq]
  split <;> simp [count]

theorem Scope.isEmpty_eq (scope : Scope) : scope.isEmpty = (scope.count == 0) := by
  rw [isEmpty, count]
  cases scope.entries <;> rfl

/-- **The lines of a scope tell the scope**, and where they end. -/
theorem Scope.shown_eq_of_lines {first second : Scope} {more more' : List String}
    (hfirst : ∀ entry ∈ first.entries, entry.Unbroken)
    (hsecond : ∀ entry ∈ second.entries, entry.Unbroken)
    (h : first.lines ++ more = second.lines ++ more') :
    first.shown = second.shown ∧ more = more' := by
  have hheading : first.heading = second.heading := (List.cons.inj h).1
  have hnumbers := congrArg (numbers ·.toList) hheading
  simp only [numbers_heading, List.cons.injEq, and_true] at hnumbers
  obtain ⟨hlevel, hcapacity, hcount⟩ := hnumbers
  have hempty : first.isEmpty = second.isEmpty := by rw [isEmpty_eq, isEmpty_eq, hcount]
  -- The heading tells how many lines there are.
  have hlength : first.lines.length = second.lines.length := by
    rw [length_lines, length_lines, hcount, hempty]
  obtain ⟨hlines, hmore⟩ := List.append_inj h hlength
  refine ⟨?_, hmore⟩
  rw [lines_eq, lines_eq, hheading, hempty] at hlines
  have hrows : first.entries.map Entry.line = second.entries.map Entry.line := by
    simpa using hlines
  have hentries := map_line_injective hfirst hsecond hrows
  obtain ⟨level, enclosing, capacity, entries⟩ := first
  obtain ⟨level', enclosing', capacity', entries'⟩ := second
  simp only [shown, Scope.mk.injEq]
  exact ⟨hlevel, trivial, hcapacity, hentries⟩

/-- What follows the lines of a scope: an arrow and the scopes around it, if there are any. -/
def outerLines : List Scope → List String
  | [] => []
  | scope :: outer => "  |" :: "  V (Enclosing Scope)" :: scopeLines (scope :: outer)

theorem scopeLines_cons (scope : Scope) (outer : List Scope) :
    scopeLines (scope :: outer) = scope.lines ++ outerLines outer := by
  cases outer with
  | nil => exact (List.append_nil _).symm
  | cons next outer =>
    rw [scopeLines, List.append_assoc]
    · rfl
    · simp

/-- A scope is not taken for the remark that there is none. -/
theorem scopeLines_cons_ne_nil (scope : Scope) (outer : List Scope) :
    scopeLines (scope :: outer) ≠ scopeLines [] := by
  intro h
  rw [scopeLines_cons, Scope.lines_eq] at h
  have hnumbers := congrArg (numbers ·.toList) (List.cons.inj h).1
  rw [Scope.numbers_heading] at hnumbers
  cases hnumbers

/-- The lines of several scopes tell all of them. -/
theorem map_shown_eq_of_scopeLines {first second : List Scope}
    (hfirst : ∀ scope ∈ first, ∀ entry ∈ scope.entries, entry.Unbroken)
    (hsecond : ∀ scope ∈ second, ∀ entry ∈ scope.entries, entry.Unbroken)
    (h : scopeLines first = scopeLines second) :
    first.map Scope.shown = second.map Scope.shown := by
  induction first generalizing second with
  | nil =>
    cases second with
    | nil => rfl
    | cons scope outer => exact absurd h.symm (scopeLines_cons_ne_nil scope outer)
  | cons scope outer ih =>
    cases second with
    | nil => exact absurd h (scopeLines_cons_ne_nil scope outer)
    | cons scope' outer' =>
      rw [List.forall_mem_cons] at hfirst hsecond
      rw [scopeLines_cons, scopeLines_cons] at h
      obtain ⟨hscope, houter⟩ := Scope.shown_eq_of_lines hfirst.1 hsecond.1 h
      rw [List.map_cons, List.map_cons, hscope, List.cons.injEq]
      refine ⟨rfl, ?_⟩
      -- Both have a scope around this one, or neither has.
      cases outer with
      | nil =>
        cases outer' with
        | nil => rfl
        | cons next' rest' => cases houter
      | cons next rest =>
        cases outer' with
        | nil => cases houter
        | cons next' rest' =>
          simp only [outerLines, List.cons.injEq, true_and] at houter
          exact ih hfirst.2 hsecond.2 houter

/-! ### The text of a dump -/

theorem newline_notMem_padRight {text : String} (h : '\n' ∉ text.toList) (width : Nat) :
    '\n' ∉ (Text.padRight width text).toList := by
  simp [Text.padRight, h, List.mem_replicate]

theorem newline_notMem_heading (scope : Scope) : '\n' ∉ scope.heading.toList := by
  have hheading : scope.heading = "Scope Level: " ++ scope.level.repr ++ " (Capacity: " ++
      scope.capacity.repr ++ ", Count: " ++ scope.count.repr ++ ")" := rfl
  have hnumber := newline_notMem_repr
  simp only [hheading, String.toList_append, List.mem_append, hnumber, or_false]
  decide +kernel

theorem newline_notMem_line {entry : Entry} (h : entry.Unbroken) : '\n' ∉ entry.line.toList := by
  have hline : entry.line = "  Name: " ++ Text.padRight 15 entry.name ++ " | Type: " ++
      Text.padRight 10 entry.type.name ++ " | Defined Scope: " ++ entry.level.repr := rfl
  have hname : '\n' ∉ entry.name.toList := fun hmem => absurd (h _ hmem) (by decide)
  have htype : '\n' ∉ entry.type.name.toList := by cases entry.type <;> decide +kernel
  simp only [hline, String.toList_append, List.mem_append, newline_notMem_padRight hname,
    newline_notMem_padRight htype, newline_notMem_repr, or_false]
  decide +kernel

theorem Scope.newline_notMem_lines {scope : Scope} (h : ∀ entry ∈ scope.entries, entry.Unbroken) :
    ∀ line ∈ scope.lines, '\n' ∉ line.toList := by
  intro line hline
  have hrule : '\n' ∉ dumpRule.toList := by decide +kernel
  rw [lines_eq, List.mem_cons, List.mem_cons, List.mem_append, List.mem_append,
    List.mem_singleton] at hline
  rcases hline with rfl | rfl | (hremark | hrow) | rfl
  · exact newline_notMem_heading scope
  · exact hrule
  · split at hremark
    · rw [List.mem_singleton.mp hremark]
      decide +kernel
    · cases hremark
  · obtain ⟨entry, hentry, rfl⟩ := List.mem_map.mp hrow
    exact newline_notMem_line (h entry hentry)
  · exact hrule

theorem newline_notMem_scopeLines {scopes : List Scope}
    (h : ∀ scope ∈ scopes, ∀ entry ∈ scope.entries, entry.Unbroken) :
    ∀ line ∈ scopeLines scopes, '\n' ∉ line.toList := by
  induction scopes with
  | nil =>
    intro line hline
    rw [List.mem_singleton.mp hline]
    decide +kernel
  | cons scope outer ih =>
    rw [List.forall_mem_cons] at h
    rw [scopeLines_cons]
    intro line hline
    rcases List.mem_append.mp hline with hline | hline
    · exact Scope.newline_notMem_lines h.1 line hline
    · cases outer with
      | nil => cases hline
      | cons next rest =>
        rw [outerLines, List.mem_cons, List.mem_cons] at hline
        rcases hline with rfl | rfl | hline
        · decide +kernel
        · decide +kernel
        · exact ih h.2 line hline

/-- Of a text that begins and ends with a dash, only blank lines around it are trimmed. -/
theorem trimmed_newlines {text : String} (hstart : text.toList.head? = some '-')
    (hend : text.toList.getLast? = some '-') :
    Text.trimmed ("\n" ++ text ++ "\n" ++ "\n") = text := by
  have htext : ("\n" ++ text ++ "\n" ++ "\n").toList =
      '\n' :: (text.toList ++ ['\n'] ++ ['\n']) := by
    simp
  have hdash : isBlank '-' = false := rfl
  rw [Text.trimmed, htext, Text.trim_cons_of_isBlank rfl, Text.trim_concat_of_isBlank rfl,
    Text.trim_concat_of_isBlank rfl, Text.trim_eq_self (by simp [hstart, hdash])
    (by simp [hend, hdash]), String.ofList_toList]

namespace Table

variable {σ τ : Type}

/-- Whether no entry of a table has a blank in its name. -/
def Unbroken (table : Table σ) : Prop :=
  ∀ scope ∈ table.scopes, ∀ entry ∈ scope.entries, entry.Unbroken

instance (table : Table σ) : Decidable table.Unbroken :=
  inferInstanceAs (Decidable (∀ scope ∈ table.scopes, ∀ entry ∈ scope.entries, entry.Unbroken))

theorem Unbroken.newline_notMem {table : Table σ} (h : table.Unbroken) :
    ∀ line ∈ table.lines, '\n' ∉ line.toList := by
  intro line hline
  rw [lines, List.mem_append, List.mem_append] at hline
  rcases hline with (hfirst | hscope) | hlast
  · revert line
    decide +kernel
  · exact newline_notMem_scopeLines h line hscope
  · revert line
    decide +kernel

/-- The text of a dump tells the scopes, but for their enclosing levels. -/
theorem map_shown_eq_of_dump {first : Table σ} {second : Table τ} (hfirst : first.Unbroken)
    (hsecond : second.Unbroken) (h : first.dump = second.dump) :
    first.scopes.map Scope.shown = second.scopes.map Scope.shown := by
  have hlines : first.lines = second.lines :=
    eq_of_join_lines hfirst.newline_notMem hsecond.newline_notMem h
  have hscopes : scopeLines first.scopes = scopeLines second.scopes :=
    List.append_cancel_left (List.append_cancel_right hlines)
  exact map_shown_eq_of_scopeLines hfirst hsecond hscopes

/-- A dump without the blank lines around it. -/
def dumpBody (table : Table σ) : String :=
  "----- Symbol Table (Current View from Innermost Scope) -----" ++ "\n" ++
    String.join ((scopeLines table.scopes).map (· ++ "\n")) ++ "--- End Symbol Table ---"

theorem dump_eq_body (table : Table σ) : table.dump = "\n" ++ table.dumpBody ++ "\n" ++ "\n" := by
  unfold dump lines dumpBody
  simp only [List.map_append, List.map_cons, List.map_nil, String.join_append, String.join_cons,
    String.join_nil, String.append_assoc, String.append_empty, String.empty_append]

theorem head?_dumpBody (table : Table σ) : table.dumpBody.toList.head? = some '-' := by
  unfold dumpBody
  simp

/-- What a command shows of a dump is all but the blank lines around it. -/
theorem trimmed_dump (table : Table σ) : Text.trimmed table.dump = table.dumpBody := by
  have hend : table.dumpBody.toList.getLast? = some '-' := by
    have hfooter : "--- End Symbol Table ---".toList.getLast? = some '-' := by decide +kernel
    unfold dumpBody
    rw [String.toList_append, List.getLast?_append, hfooter, Option.some_or]
  rw [dump_eq_body, trimmed_newlines table.head?_dumpBody hend]

/-- The enclosing levels of well-nested scopes follow from their levels. -/
theorem WellNested.scopes_eq {first : Table σ} {second : Table τ} (hfirst : first.WellNested)
    (hsecond : second.WellNested)
    (h : first.scopes.map Scope.shown = second.scopes.map Scope.shown) :
    first.scopes = second.scopes := by
  have hshown (i : Nat) : first.scopes[i]?.map Scope.shown = second.scopes[i]?.map Scope.shown := by
    rw [← List.getElem?_map, h, List.getElem?_map]
  have hlevel (i : Nat) : first.scopes[i]?.map Scope.level = second.scopes[i]?.map Scope.level := by
    have hboth := congrArg (Option.map Scope.level) (hshown i)
    rw [Option.map_map, Option.map_map] at hboth
    exact hboth
  refine List.ext_getElem? fun i => ?_
  have hboth := hshown i
  cases hone : first.scopes[i]? with
  | none =>
    rw [hone] at hboth
    exact (Option.map_eq_none_iff.mp hboth.symm).symm
  | some scope =>
    rw [hone, Option.map_some] at hboth
    obtain ⟨scope', hother, hsame⟩ := Option.map_eq_some_iff.mp hboth.symm
    have henclosing : scope.enclosing = scope'.enclosing := by
      rw [hfirst.enclosing i scope hone, hsecond.enclosing i scope' hother, hlevel]
    rw [hother, Scope.eq_of_shown_eq hsame.symm henclosing]

variable [Allocator σ] [Allocator τ]

theorem execute_dump (table : Table σ) :
    Command.dump.execute table = .done [] (.ok table.dumpBody, table) := by
  rw [Command.execute, trimmed_dump, Outcome.pure_eq]

theorem text_of_execute_dump {table : Table σ} {text : String}
    (h : Command.dump.execute table = .done [] (.ok text, table)) : text = table.dumpBody := by
  rw [execute_dump, Outcome.done.injEq, Prod.mk.injEq, Except.ok.injEq] at h
  exact h.2.1.symm

/-- **A dump tells all about the open scopes.**  Two tables that can be reached, on any allocators,
    and that hold no name with a blank in it, have the same text for a dump exactly if their scopes
    are the same, with all levels, capacities and entries in their order; and so it is with the
    text that a command shows of a dump. -/
theorem dump_eq_iff {first : Table σ} {second : Table τ} {history history' : List Operation}
    (hfirst : first.ReachedBy history) (hsecond : second.ReachedBy history')
    (hunbroken : first.Unbroken) (hunbroken' : second.Unbroken) :
    (first.dump = second.dump ↔ first.scopes = second.scopes) ∧
      ((∃ text, Command.dump.execute first = .done [] (.ok text, first) ∧
          Command.dump.execute second = .done [] (.ok text, second)) ↔
        first.scopes = second.scopes) := by
  have hdump : first.dump = second.dump ↔ first.scopes = second.scopes := by
    refine ⟨fun h => ?_, dump_congr⟩
    exact (wellNested_of_reachedBy hfirst).scopes_eq (wellNested_of_reachedBy hsecond)
      (map_shown_eq_of_dump hunbroken hunbroken' h)
  refine ⟨hdump, fun ⟨text, hshown, hshown'⟩ => ?_, fun h => ?_⟩
  · -- What is shown lacks only the blank lines, and these are the same in every dump.
    have hbody : first.dumpBody = second.dumpBody :=
      (text_of_execute_dump hshown).symm.trans (text_of_execute_dump hshown')
    rw [← hdump, dump_eq_body, dump_eq_body, hbody]
  · refine ⟨first.dumpBody, execute_dump first, ?_⟩
    rw [execute_dump, ← trimmed_dump, ← trimmed_dump, dump_congr h]

/-- Names that are empty, hold a bar or are longer than their column do not matter; nor does what
    has been closed, dropped or refused before. -/
theorem dump_eq_iff_bars :
    let entries : List Entry := [⟨"", .int, 0⟩, ⟨"a|b", .float, 0⟩]
    let scopes : List Scope :=
      [⟨2, some 1, 1, []⟩, ⟨1, some 0, 1, [⟨"sixteen_letters|", .void, 1⟩]⟩,
        ⟨0, none, 2, entries⟩]
    let first : Table Heap := { scopes, nextLevel := 3, initialCapacity := 1, allocator := {} }
    let second : Table Capped := { scopes, nextLevel := 3, initialCapacity := 1, allocator := ⟨2⟩ }
    let history : List Operation :=
      [.insert "" .int, .insert "a|b" .float, .openScope,
        .insert "sixteen_letters|" .void, .openScope]
    let detour : List Operation := [.openScope, .closeScope, .insert "x" .char, .reset]
    first.ReachedBy history ∧ second.ReachedBy (detour ++ history) ∧ first.Unbroken ∧
      second.Unbroken ∧ (first.dump = second.dump ↔ first.scopes = second.scopes) := by
  intro entries scopes first second history detour
  have hfirst : first.ReachedBy history := ⟨1, {}, _, _, _, _, rfl, rfl⟩
  have hsecond : second.ReachedBy (detour ++ history) := ⟨1, ⟨2⟩, _, _, _, _, rfl, rfl⟩
  have hunbroken : first.Unbroken := by decide +kernel
  have hunbroken' : second.Unbroken := hunbroken
  exact ⟨hfirst, hsecond, hunbroken, hunbroken',
    (dump_eq_iff hfirst hsecond hunbroken hunbroken').1⟩

end Table

end Frontend
