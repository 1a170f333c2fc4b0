import Frontend.Proofs.Script.Canonical
import Frontend.Proofs.Script.Exchanges
import Frontend.Proofs.Text.Fields

namespace Frontend

open Text (isBlank words words_eq_fields fields_append fields_of_forall of_mem_words trim_eq_self)

/-!
# Names that scripts declare

Which names the entries of a table can have that only scripts have worked on.

* `Declarable` — the names that can stand as a word of a command;
* `Table.Holds` — a name is declared in an open scope, and `Table.Effect.holds` where it comes from;
* `Script.declarable_of_lineOperation?` — a command of a script declares nothing but such names;
* `Script.split_declaration` — and any such name stands in a command that declares it;
* `Script.ReachedByScripts` — the tables that scripts alone lead to;
* `Script.exists_declaring_iff` — a script can declare just the declarable names.
-/

/-- A name that can stand as a word of a command: nothing in it ends a word or a command, and no
    comment starts in it. -/
structure Declarable (name : String) : Prop where
  ne_empty : name ≠ ""
  blank : ∀ c ∈ name.toList, isBlank c = false
  special : ∀ c ∈ [';', '\x7b', '\x7d', '#'], c ∉ name.toList
  slashes : ¬ ['/', '/'] <:+: name.toList

/-- Nothing in a declarable name ends a command or starts a comment. -/
theorem Declarable.plain {name : String} (h : Declarable name) : Script.Plain name.toList where
  newline hmem := absurd (h.blank _ hmem) (by decide)
  semicolon := h.special _ (by simp)
  hash := h.special _ (by simp)
  brace c hmem := by
    have hopening : c ≠ '\x7b' := fun hc => h.special '\x7b' (by simp) (hc ▸ hmem)
    have hclosing : c ≠ '\x7d' := fun hc => h.special '\x7d' (by simp) (hc ▸ hmem)
    simp [Script.isBrace, hopening, hclosing]
  slashes := h.slashes

/-! ### Where names come from -/

/-- Whether a name is declared in an open scope. -/
def Table.Holds {σ : Type} (table : Table σ) (name : String) : Prop :=
  ∃ scope ∈ table.scopes, ∃ entry ∈ scope.entries, entry.name = name

namespace Table

variable {σ : Type} [Allocator σ]

theorem not_holds_opened_blank (capacity : Nat) (allocator : σ) (name : String) :
    ¬ (blank capacity allocator).opened.Holds name := by
  simp [Holds, blank, Scope.fresh]

/-- A name that is declared after an operation was so before, or the operation declared it. -/
theorem Effect.holds {table next : Table σ} {operation : Operation} {events : List Event}
    {response : Response} (heffect : Effect table operation events response next) {name : String}
    (h : next.Holds name) : table.Holds name ∨ ∃ type, operation = .insert name type := by
  obtain ⟨scope, hscope, entry, hentry, rfl⟩ := h
  cases heffect with
  | opened hcan =>
    rw [scopes_opened, List.mem_cons] at hscope
    rcases hscope with rfl | hscope
    · cases hentry
    · exact .inl ⟨scope, hscope, entry, hentry, rfl⟩
  | nothingToClose | nowhereToInsert | redeclared | growthRefused =>
    exact .inl ⟨scope, hscope, entry, hentry, rfl⟩
  | closed hscopes =>
    exact .inl ⟨scope, hscopes ▸ List.mem_cons_of_mem _ hscope, entry, hentry, rfl⟩
  | inserted hscopes hnew hroom hgranted =>
    rename_i innermost _ outer _ _
    rw [List.mem_cons] at hscope
    rcases hscope with rfl | hscope
    · -- In the innermost scope the entry is an old one or the new one.
      obtain ⟨-, -, hentries, -⟩ := Scope.of_makeRoom_eq_some hroom
      rw [Scope.add, hentries, List.mem_append, List.mem_singleton] at hentry
      rcases hentry with hentry | rfl
      · exact .inl ⟨innermost, hscopes ▸ List.mem_cons_self, entry, hentry, rfl⟩
      · exact .inr ⟨_, rfl⟩
    · exact .inl ⟨scope, hscopes ▸ List.mem_cons_of_mem _ hscope, entry, hentry, rfl⟩
  | restarted hcan =>
    exact absurd ⟨scope, hscope, entry, hentry, rfl⟩ (not_holds_opened_blank _ _ _)

end Table

/-! ### Names in commands -/

namespace Command

theorem eq_of_declare {name text declared : String} {type : DataType}
    (h : declare name text = .ok (.insert declared type)) : declared = name := by
  unfold declare at h
  split at h
  · cases h
    rfl
  · cases h

/-- The name that a command declares is one of its words. -/
theorem mem_of_ofWords? {line : List String} {name : String} {type : DataType}
    (h : ofWords? line = some (.ok (.insert name type))) : name ∈ line := by
  unfold ofWords? at h
  -- Of all forms only the two long ones and the short one make a declaration.
  split at h <;> simp only [Option.some.injEq, Except.ok.injEq, Option.map_eq_some_iff,
    reduceCtorEq] at h
  · rw [eq_of_declare h]
    simp
  · rw [eq_of_declare h]
    simp
  · obtain ⟨_, -, hdeclared⟩ := h
    cases hdeclared
    simp

theorem mem_words_of_parse {line name : String} {type : DataType}
    (h : parse line = .ok (.insert name type)) : name.toList ∈ words line.toList := by
  unfold parse at h
  split at h
  · rename_i result hwords
    rw [h] at hwords
    obtain ⟨word, hword, rfl⟩ := List.mem_map.mp (mem_of_ofWords? hwords)
    rwa [String.toList_ofList]
  · cases h

/-- A type and a name declare the name. -/
theorem ofWords?_declaration (name : String) :
    ofWords? ["int", name] = some (.ok (.insert name .int)) := by
  have hint : DataType.ofText? "int" = some .int :=
    DataType.ofText?_eq_some_iff.mpr (by decide +kernel)
  simp [ofWords?, hint]

end Command

namespace Script

/-- A word of a plain text is a declarable name. -/
theorem Plain.declarable {line word : List Char} (h : Plain line) (hword : word ∈ words line) :
    Declarable (String.ofList word) := by
  obtain ⟨hne, hinside, hblank⟩ := of_mem_words hword
  have hplain := h.of_isInfix hinside
  have hbrace {c : Char} (hc : isBrace c = true) : c ∉ word := fun hmem => by
    simp [hplain.brace c hmem] at hc
  have htext : (String.ofList word).toList = word := String.toList_ofList
  constructor
  · simpa using hne
  · rwa [htext]
  · rw [htext]
    simpa using ⟨hplain.semicolon, hbrace rfl, hbrace rfl, hplain.hash⟩
  · rw [htext]
    exact hplain.slashes

/-- **What a command of a script declares is declarable.** -/
theorem declarable_of_lineOperation? {source line name : String} {type : DataType}
    (hline : line ∈ split source) (hdeclares : lineOperation? line = some (.insert name type)) :
    Declarable name := by
  obtain ⟨command, hcommand, rfl⟩ := List.mem_map.mp hline
  unfold lineOperation? at hdeclares
  split at hdeclares
  · rename_i asked hparse
    have hasked : asked = .insert name type := by cases asked <;> simp_all [Command.operation?]
    rw [hasked] at hparse
    rcases (canonical_of_mem_commands hcommand).plain_or_brace with hplain | ⟨c, hbrace, rfl⟩
    · have hword := Command.mem_words_of_parse hparse
      rw [String.toList_ofList] at hword
      simpa using hplain.declarable hword
    · -- A brace alone opens or closes a scope.
      simp only [isBrace, Bool.or_eq_true, beq_iff_eq] at hbrace
      rcases hbrace with rfl | rfl
      · cases hparse
      · cases hparse
  · cases hdeclares

/-! ### Runs -/

section

variable {σ τ : Type} [Allocator σ] [Sink τ]

/-- A name that a script leaves declared was so before, or a command declared it. -/
theorem holds_of_leadsTo {start last : Table σ} {made : List Exchange} {events : List Event}
    (hrun : LeadsTo start made events last) {name : String} (h : last.Holds name) :
    start.Holds name ∨
      ∃ line ∈ made.map Prod.fst, ∃ type, lineOperation? line = some (.insert name type) := by
  induction hrun with
  | nil => exact .inl h
  | snoc _ hperform ih =>
    rename_i made _ _ middle last exchange _
    rw [List.map_append, List.map_singleton]
    have hbefore : middle.Holds name ∨
        ∃ type, lineOperation? exchange.1 = some (.insert name type) := by
      cases hline : lineOperation? exchange.1 with
      | none =>
        rw [(eq_of_perform hperform hline).2] at h
        exact .inl h
      | some operation =>
        obtain ⟨response, heffect, -⟩ := effect_of_perform hperform hline
        simpa using heffect.holds h
    rcases hbefore with hmiddle | hdeclared
    · refine (ih hmiddle).imp_right fun ⟨line, hline, hdeclared⟩ => ?_
      exact ⟨line, List.mem_append_left _ hline, hdeclared⟩
    · exact .inr ⟨exchange.1, by simp, hdeclared⟩

/-- The tables that scripts alone lead to: those just made, and whatever the first so many commands
    of a script leave of one that scripts have led to. -/
inductive ReachedByScripts : Table σ → Prop
  | created {capacity : Nat} {allocator : σ} {events : List Event} {table : Table σ}
      (hcreate : Table.create capacity allocator = .done events table) : ReachedByScripts table
  | commands {table : Table σ} (htable : ReachedByScripts table) {τ : Type} [Sink τ] (sink : τ)
      (source : String) (count : Nat) :
      ReachedByScripts (runCommands table sink ((split source).take count)).table

/-- Every name declared in a table that scripts alone have led to is declarable. -/
theorem ReachedByScripts.declarable {table : Table σ} (htable : ReachedByScripts table)
    {name : String} (h : table.Holds name) : Declarable name := by
  induction htable with
  | created hcreate =>
    obtain ⟨-, -, rfl⟩ := Table.create_eq_done_iff.mp hcreate
    exact absurd h (Table.not_holds_opened_blank _ _ _)
  | commands _ sink source count ih =>
    rename_i table _ _ _
    let lines := (split source).take count
    obtain ⟨events, hrun⟩ := leadsTo_exchanges { table, sink } lines
    rcases holds_of_leadsTo hrun h with hbefore | ⟨line, hline, type, hdeclares⟩
    · exact ih hbefore
    · have hmem := (map_fst_exchanges_initial { table, sink } lines).subset hline
      exact declarable_of_lineOperation? (List.mem_of_mem_take hmem) hdeclares

end

/-! ### A script for every declarable name -/

/-- A declarable name after a type is a canonical command. -/
theorem canonical_declaration {name : String} (h : Declarable name) :
    Canonical ("int " ++ name).toList := by
  have htext : ("int " ++ name).toList = 'i' :: 'n' :: 't' :: ' ' :: name.toList := by simp
  have hname : Plain name.toList := h.plain
  have hne : name.toList ≠ [] := by simpa using h.ne_empty
  rw [htext]
  refine ⟨List.cons_ne_nil _ _, trim_eq_self rfl ?_, .inl ?_⟩
  · -- The last character is one of the name's.
    have hlast : ('i' :: 'n' :: 't' :: ' ' :: name.toList).getLast? =
        some (name.toList.getLast hne) := by
      simp [List.getLast?_cons, List.getLast?_eq_some_getLast hne]
    simp [hlast, h.blank _ (List.getLast_mem hne)]
  · have hspace := hname.cons (c := ' ') (by decide) (by decide) (by decide) rfl (by decide)
    have ht := hspace.cons (c := 't') (by decide) (by decide) (by decide) rfl (by decide)
    have hn := ht.cons (c := 'n') (by decide) (by decide) (by decide) rfl (by decide)
    exact hn.cons (by decide) (by decide) (by decide) rfl (by decide)

/-- A declarable name after a type is a script of one command. -/
theorem split_declaration {name : String} (h : Declarable name) :
    split ("int " ++ name) = ["int " ++ name] :=
  (canonical_declaration h).split_eq

/-- A declarable name after a type is read as a declaration. -/
theorem parse_declaration {name : String} (h : Declarable name) :
    Command.parse ("int " ++ name) = .ok (.insert name .int) := by
  have hwords : words ("int " ++ name).toList = ["int".toList, name.toList] := by
    have htext : ("int " ++ name).toList = "int".toList ++ ' ' :: name.toList := by simp
    have hne : name.toList ≠ [] := by simpa using h.ne_empty
    rw [htext, words_eq_fields, fields_append rfl, fields_of_forall hne h.blank]
    rfl
  simp only [Command.parse, hwords, List.map_cons, List.map_nil, String.ofList_toList,
    Command.ofWords?_declaration]

/-- On a table just made, the declaration is carried out. -/
theorem run_declaration {name : String} (h : Declarable name) :
    let start := (Table.blank defaultCapacity ({} : Heap)).opened
    (run start ({} : Transcript) ("int " ++ name)).stop = none ∧
      (run start ({} : Transcript) ("int " ++ name)).table.Holds name := by
  intro start
  have hperform : perform start ("int " ++ name) = .done [.inserted name .int 0]
      (Response.answer (.inserted ⟨name, .int, 0⟩),
        { start with scopes := [(Scope.fresh 0 none defaultCapacity).add ⟨name, .int, 0⟩] }) := by
    rw [perform, parse_declaration h]
    rfl
  rw [run, runCommands, split_declaration h, List.foldl_cons, List.foldl_nil,
    step_transcript rfl hperform]
  exact ⟨rfl, _, List.mem_singleton_self _, _, List.mem_singleton_self _, rfl⟩

/-- **Scripts declare just the declarable names.**  For each of these, and for no other text, there
    is a script that leaves an entry of this name in a table just made.  So an entry that scripts
    alone have made has such a name, whatever the table, and whatever the scripts, finished or
    not. -/
theorem exists_declaring_iff (name : String) :
    ((∃ (source : String) (created : List Event) (start : Table Heap),
        Table.create defaultCapacity ({} : Heap) = .done created start ∧
          (run start ({} : Transcript) source).stop = none ∧
          (run start ({} : Transcript) source).table.Holds name) ↔ Declarable name) ∧
      ∀ {σ : Type} [Allocator σ] {table : Table σ}, ReachedByScripts table →
        ∀ scope ∈ table.scopes, ∀ entry ∈ scope.entries, Declarable entry.name := by
  refine ⟨⟨?_, fun h => ?_⟩, ?_⟩
  · rintro ⟨source, created, start, hcreate, -, hholds⟩
    have hreached := ReachedByScripts.commands (.created hcreate) ({} : Transcript) source
      (split source).length
    rw [List.take_length] at hreached
    exact hreached.declarable hholds
  · obtain ⟨hstop, hholds⟩ := run_declaration h
    exact ⟨"int " ++ name, _, _, rfl, hstop, hholds⟩
  · intro σ _ table hreached scope hscope entry hentry
    exact hreached.declarable ⟨scope, hscope, entry, hentry, rfl⟩

/-- Names that look like a type, a command or half a comment, in the two scopes of a table with a
    ceiling.  The second script has only come to its second command. -/
theorem declarable_of_odd_names :
    let first := "int a/b; decl int float // no name\nchar '"
    let second := "\x7b void insert; int x; \x7d"
    let middle := (run (Table.blank 1 (Capped.mk 2)).opened ({} : Transcript) first).table
    let last := (runCommands middle ({} : Transcript) ((split second).take 2)).table
    ReachedByScripts last ∧
      last.scopes =
        [⟨1, some 0, 1, [⟨"insert", .void, 1⟩]⟩,
          ⟨0, none, 2, [⟨"a/b", .int, 0⟩, ⟨"int", .float, 0⟩]⟩] ∧
      Declarable "insert" ∧ Declarable "a/b" ∧ Declarable "int" := by
  intro first second middle last
  have hcreate : Table.create 1 (Capped.mk 2) = .done [.opened 0, .started] _ := rfl
  have hstart := ReachedByScripts.created hcreate
  have hmiddle : ReachedByScripts middle := by
    have hall := hstart.commands ({} : Transcript) first (split first).length
    rwa [List.take_length] at hall
  have hlast : ReachedByScripts last := hmiddle.commands _ second 2
  have hscopes : last.scopes = [⟨1, some 0, 1, [⟨"insert", .void, 1⟩]⟩,
      ⟨0, none, 2, [⟨"a/b", .int, 0⟩, ⟨"int", .float, 0⟩]⟩] := by decide +kernel
  have hnames := (exists_declaring_iff "").2 hlast
  rw [hscopes] at hnames
  exact ⟨hlast, hscopes, hnames _ (.head _) _ (.head _), hnames _ (.tail _ (.head _)) _ (.head _),
    hnames _ (.tail _ (.head _)) _ (.tail _ (.head _))⟩

end Script

end Frontend
