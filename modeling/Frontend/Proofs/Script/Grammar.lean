import Frontend.Proofs.Text.Fields
import Frontend.Script.Command
import Mathlib.Data.List.Basic

namespace Frontend

open Text

/-!
# The grammar of commands

Which lines are commands is said by a relation between the words of a line and a command, and what
a line fails for by another.  Reading a line is neither more nor less than these two.

* `wordsOf` — the words of a line, and `wordsOf_intercalate` how they are put into one;
* `DataType.Spelled` — the words for a type;
* `Form.names`, `Form.arity` — how the commands with arguments begin, and how many they take;
* `Command.Reads`, `Command.Fails` — the grammar, one constructor for each way of writing a command
  and of getting it wrong, and `Command.Means` the two together;
* `Command.ofWords?_eq_some_iff`, `Command.ofWords?_eq_none_iff` — words are read as the grammar
  says;
* `Command.wording` — the words a command is usually written with, which make it
  (`Command.reads_wording`);
* `Command.parse_grammar` — what this means for lines.
-/

/-! ### Words -/

namespace Text

/-- The words of a line, in order. -/
def wordsOf (line : String) : List String := (words line.toList).map String.ofList

/-- A text that can be a word: it is not empty and has no blank in it. -/
structure IsWord (word : String) : Prop where
  ne_empty : word ≠ ""
  blank : ∀ c ∈ word.toList, isBlank c = false

instance (word : String) : Decidable (IsWord word) :=
  -- The characters of the word are gone through, not all that there are.
  have : Decidable (∀ c ∈ word.toList, isBlank c = false) := List.decidableBAll _ _
  decidable_of_iff (word ≠ "" ∧ ∀ c ∈ word.toList, isBlank c = false)
    ⟨fun h => ⟨h.1, h.2⟩, fun h => ⟨h.ne_empty, h.blank⟩⟩

/-- The words of a line are such texts. -/
theorem isWord_of_mem_wordsOf {line word : String} (h : word ∈ wordsOf line) : IsWord word := by
  obtain ⟨text, htext, rfl⟩ := List.mem_map.mp h
  obtain ⟨hne, -, hblank⟩ := of_mem_words htext
  constructor
  · simpa using hne
  · rwa [String.toList_ofList]

/-- A word is the only one of itself. -/
theorem IsWord.wordsOf_eq {word : String} (h : IsWord word) : wordsOf word = [word] := by
  have hne : word.toList ≠ [] := by simpa using h.ne_empty
  rw [wordsOf, words_eq_fields, fields_of_forall hne h.blank, List.map_singleton,
    String.ofList_toList]

/-- A space ends a word. -/
theorem wordsOf_append_space (before after : String) :
    wordsOf (before ++ " " ++ after) = wordsOf before ++ wordsOf after := by
  have htext : (before ++ " " ++ after).toList = before.toList ++ ' ' :: after.toList := by simp
  simp only [wordsOf, htext, words_eq_fields, fields_append (p := isBlank) (c := ' ') rfl,
    List.map_append]

/-- Words with spaces between them are the words of the line they make. -/
theorem wordsOf_intercalate {texts : List String} (h : ∀ text ∈ texts, IsWord text) :
    wordsOf (" ".intercalate texts) = texts := by
  induction texts with
  | nil => rfl
  | cons text rest ih =>
    rw [List.forall_mem_cons] at h
    cases rest with
    | nil => rw [String.intercalate_singleton, h.1.wordsOf_eq]
    | cons next rest =>
      rw [String.intercalate_cons_cons, wordsOf_append_space, ih h.2, h.1.wordsOf_eq,
        List.singleton_append]

end Text

/-- The words for a type: its keyword, in capitals, small letters, or a mixture. -/
def DataType.Spelled (type : DataType) (word : String) : Prop := word.toLower = type.keyword

instance (type : DataType) (word : String) : Decidable (type.Spelled word) :=
  inferInstanceAs (Decidable (_ = _))

theorem DataType.spelled_iff {type : DataType} {word : String} :
    type.Spelled word ↔ ofText? word = some type :=
  ofText?_eq_some_iff.symm

/-- A type as it is shown is a word for it. -/
theorem DataType.spelled_name (type : DataType) : type.Spelled type.name := by
  cases type <;> decide +kernel

namespace Form

/-- The words that a command with arguments begins with. -/
def names : Form → List String
  | insert => ["insert", "decl"]
  | lookup => ["lookup"]
  | lookupCurrent => ["local"]

/-- How many arguments it takes. -/
def arity : Form → Nat
  | insert => 2
  | lookup => 1
  | lookupCurrent => 1

end Form

/-- A word for a type begins no command with arguments. -/
theorem DataType.Spelled.ne_of_mem_names {type : DataType} {text word : String}
    (h : type.Spelled text) (form : Form) (hword : word ∈ form.names) : text ≠ word := by
  have hnone : ∀ name ∈ form.names, ¬ type.Spelled name := by
    cases form <;> cases type <;> decide +kernel
  rintro rfl
  exact hnone text hword h

namespace Command

/-! ### The grammar -/

/-- The words that make a command. -/
inductive Reads : List String → Command → Prop
  | openScope {word : String} (hword : word ∈ ["open", "\x7b"]) : Reads [word] openScope
  | closeScope {word : String} (hword : word ∈ ["close", "\x7d"]) : Reads [word] closeScope
  | insert {word name text : String} {type : DataType} (hword : word ∈ Form.insert.names)
      (htype : type.Spelled text) : Reads [word, name, text] (insert name type)
  | shorthand {text name : String} {type : DataType} (htype : type.Spelled text) :
      Reads [text, name] (insert name type)
  | lookup {word name : String} (hword : word ∈ Form.lookup.names) :
      Reads [word, name] (lookup name)
  | lookupCurrent {word name : String} (hword : word ∈ Form.lookupCurrent.names) :
      Reads [word, name] (lookupCurrent name)
  | dump : Reads ["dump"] dump
  | state : Reads ["state"] state
  | reset : Reads ["reset"] reset
  | help : Reads ["help"] help

/-- The words that make a command with arguments, but wrongly: there are not as many arguments as it
    takes, or a name is to be declared with a type that is none. -/
inductive Fails : List String → CommandError → Prop
  | usage {form : Form} {word : String} {arguments : List String} (hword : word ∈ form.names)
      (hcount : arguments.length ≠ form.arity) : Fails (word :: arguments) (.usage form)
  | unknownType {word name text : String} (hword : word ∈ Form.insert.names)
      (htype : ∀ type : DataType, ¬ type.Spelled text) :
      Fails [word, name, text] (.unknownType text)

/-- What the words of a line mean, as the grammar has it. -/
def Means (line : List String) : Except CommandError Command → Prop
  | .ok command => Reads line command
  | .error error => Fails line error

/-! ### Reading words -/

/-- What a declaration with a name and a type comes to. -/
theorem declare_eq_ok_iff {name text : String} {command : Command} :
    declare name text = .ok command ↔
      ∃ type : DataType, type.Spelled text ∧ command = insert name type := by
  cases hfound : DataType.ofText? text with
  | none => simp [declare, hfound, DataType.spelled_iff]
  | some type => simp [declare, hfound, DataType.spelled_iff, eq_comm]

theorem declare_eq_error_iff {name text : String} {error : CommandError} :
    declare name text = .error error ↔
      (∀ type : DataType, ¬ type.Spelled text) ∧ error = .unknownType text := by
  cases hfound : DataType.ofText? text with
  | none => simp [declare, hfound, DataType.spelled_iff, eq_comm]
  | some type => simp [declare, hfound, DataType.spelled_iff]

/-- Declarations are what the grammar says. -/
theorem means_declare {word : String} (hword : word ∈ Form.insert.names) (name text : String) :
    Means [word, name, text] (declare name text) := by
  cases hresult : declare name text with
  | ok command =>
    obtain ⟨type, htype, rfl⟩ := declare_eq_ok_iff.mp hresult
    exact Reads.insert hword htype
  | error error =>
    obtain ⟨htype, rfl⟩ := declare_eq_error_iff.mp hresult
    exact Fails.unknownType hword htype

/-- Whatever words are read as, the grammar says so. -/
theorem means_of_ofWords? {line : List String} {result : Except CommandError Command}
    (h : ofWords? line = some result) : Means line result := by
  unfold ofWords? at h
  split at h
  case h_1 | h_2 => cases h; exact Reads.openScope (by simp)
  case h_3 | h_4 => cases h; exact Reads.closeScope (by simp)
  case h_5 | h_6 => cases h; exact means_declare (by simp [Form.names]) _ _
  case h_7 | h_8 =>
    cases h
    rename_i arguments hforms
    refine Fails.usage (by simp [Form.names]) fun hcount => ?_
    obtain ⟨name, text, rfl⟩ := List.length_eq_two.mp hcount
    exact hforms name text rfl
  case h_9 => cases h; exact Reads.lookup (by simp [Form.names])
  case h_11 => cases h; exact Reads.lookupCurrent (by simp [Form.names])
  case h_10 | h_12 =>
    cases h
    rename_i arguments hforms
    refine Fails.usage (by simp [Form.names]) fun hcount => ?_
    obtain ⟨name, rfl⟩ := List.length_eq_one_iff.mp hcount
    exact hforms name rfl
  case h_13 => cases h; exact Reads.dump
  case h_14 => cases h; exact Reads.state
  case h_15 => cases h; exact Reads.reset
  case h_16 => cases h; exact Reads.help
  case h_17 =>
    obtain ⟨type, htype, rfl⟩ := Option.map_eq_some_iff.mp h
    exact Reads.shorthand (DataType.spelled_iff.mpr htype)
  case h_18 => cases h

/-- Both words that begin a declaration do the same. -/
theorem ofWords?_cons_of_mem {word : String} (h : word ∈ Form.insert.names)
    (arguments : List String) :
    ofWords? (word :: arguments) = ofWords? ("insert" :: arguments) := by
  simp only [Form.names, List.mem_cons, List.not_mem_nil, or_false] at h
  rcases h with rfl | rfl
  · rfl
  · rcases arguments with _ | ⟨_, _ | ⟨_, _ | _⟩⟩ <;> rfl

/-- The words that make a command are read as it. -/
theorem Reads.ofWords?_eq {line : List String} {command : Command} (h : Reads line command) :
    ofWords? line = some (.ok command) := by
  cases h with
  | openScope hword | closeScope hword =>
    simp only [List.mem_cons, List.not_mem_nil, or_false] at hword
    rcases hword with rfl | rfl <;> rfl
  | insert hword htype =>
    rw [ofWords?_cons_of_mem hword]
    show some (declare _ _) = _
    rw [declare_eq_ok_iff.mpr ⟨_, htype, rfl⟩]
  | shorthand htype =>
    -- A word for a type is none of the words that decide the command by themselves.
    have hinsert := htype.ne_of_mem_names .insert (.head _)
    have hdecl := htype.ne_of_mem_names .insert (.tail _ (.head _))
    have hlookup := htype.ne_of_mem_names .lookup (.head _)
    have hlocal := htype.ne_of_mem_names .lookupCurrent (.head _)
    simp [ofWords?, DataType.spelled_iff.mp htype]
  | lookup hword | lookupCurrent hword =>
    rw [List.mem_singleton.mp hword]
    rfl
  | dump | state | reset | help => rfl

/-- The words that make a command wrongly are read as its failure. -/
theorem Fails.ofWords?_eq {line : List String} {error : CommandError} (h : Fails line error) :
    ofWords? line = some (.error error) := by
  cases h with
  | usage hword hcount =>
    rename_i form word arguments
    cases form with
    | insert =>
      rw [ofWords?_cons_of_mem hword]
      rcases arguments with _ | ⟨_, _ | ⟨_, _ | _⟩⟩
      · rfl
      · rfl
      · exact absurd rfl hcount
      · rfl
    | lookup | lookupCurrent =>
      rw [List.mem_singleton.mp hword]
      rcases arguments with _ | ⟨_, _ | _⟩
      · rfl
      · exact absurd rfl hcount
      · rfl
  | unknownType hword htype =>
    rw [ofWords?_cons_of_mem hword]
    show some (declare _ _) = _
    rw [declare_eq_error_iff.mpr ⟨htype, rfl⟩]

/-- Words are read just as the grammar says. -/
theorem ofWords?_eq_some_iff {line : List String} {result : Except CommandError Command} :
    ofWords? line = some result ↔ Means line result := by
  constructor
  · exact means_of_ofWords?
  · intro h
    cases result with
    | ok command => exact Reads.ofWords?_eq h
    | error error => exact Fails.ofWords?_eq h

theorem ofWords?_eq_none_iff {line : List String} :
    ofWords? line = none ↔ (∀ command, ¬ Reads line command) ∧ ∀ error, ¬ Fails line error := by
  rw [Option.eq_none_iff_forall_ne_some]
  constructor
  · intro h
    exact ⟨fun command hreads => h _ hreads.ofWords?_eq, fun error hfails => h _ hfails.ofWords?_eq⟩
  · rintro ⟨hreads, hfails⟩ (error | command) h
    · exact hfails error (means_of_ofWords? h)
    · exact hreads command (means_of_ofWords? h)

/-! ### Writing words -/

/-- The words a command is usually written with. -/
def wording : Command → List String
  | openScope => ["open"]
  | closeScope => ["close"]
  | insert name type => ["insert", name, type.name]
  | lookup name => ["lookup", name]
  | lookupCurrent name => ["local", name]
  | dump => ["dump"]
  | state => ["state"]
  | reset => ["reset"]
  | help => ["help"]

/-- They make the line that it is usually written as. -/
theorem line_eq (command : Command) : command.line = " ".intercalate command.wording := by
  cases command with
  | insert name type =>
    show "insert " ++ name ++ " " ++ type.name = _
    simp [wording, String.append_assoc]
  | lookup name =>
    show "lookup " ++ name = _
    simp [wording]
  | lookupCurrent name =>
    show "local " ++ name = _
    simp [wording]
  | openScope | closeScope | dump | state | reset | help => rfl

/-- They make the command. -/
theorem reads_wording (command : Command) : Reads command.wording command := by
  cases command with
  | openScope => exact .openScope (.head _)
  | closeScope => exact .closeScope (.head _)
  | insert name type => exact .insert (.head _) type.spelled_name
  | lookup name => exact .lookup (.head _)
  | lookupCurrent name => exact .lookupCurrent (.head _)
  | dump => exact .dump
  | state => exact .state
  | reset => exact .reset
  | help => exact .help

theorem isWord_wording_insert {name : String} (h : IsWord name) (type : DataType) :
    ∀ word ∈ (insert name type).wording, IsWord word := by
  have hinsert : IsWord "insert" := by decide +kernel
  have htype : IsWord type.name := by cases type <;> decide +kernel
  simp [wording, h, hinsert, htype]

/-- All of them are words, if words make the command. -/
theorem Reads.isWord {line : List String} {command : Command} (h : Reads line command)
    (hline : ∀ word ∈ line, IsWord word) : ∀ word ∈ command.wording, IsWord word := by
  cases h with
  | @insert word name text type => exact isWord_wording_insert (hline name (by simp)) type
  | @shorthand text name type => exact isWord_wording_insert (hline name (by simp)) type
  | @lookup word name =>
    have hname : IsWord name := hline name (by simp)
    have hlookup : IsWord "lookup" := by decide +kernel
    simp [wording, hname, hlookup]
  | @lookupCurrent word name =>
    have hname : IsWord name := hline name (by simp)
    have hlocal : IsWord "local" := by decide +kernel
    simp [wording, hname, hlocal]
  | openScope | closeScope | dump | state | reset | help => decide +kernel

/-! ### Reading lines -/

theorem parse_of_means {line : String} {result : Except CommandError Command}
    (h : Means (wordsOf line) result) : parse line = result := by
  have hwords : ofWords? ((words line.toList).map String.ofList) = some result :=
    ofWords?_eq_some_iff.mpr h
  rw [parse, hwords]

theorem parse_of_eq_none {line : String} (h : ofWords? (wordsOf line) = none) :
    parse line = .error (.unknown (trimmed line)) := by
  have hwords : ofWords? ((words line.toList).map String.ofList) = none := h
  rw [parse, hwords]

/-- A line is read as its words mean, or as an unknown command if they mean nothing. -/
theorem means_or_unknown (line : String) :
    Means (wordsOf line) (parse line) ∨
      ofWords? (wordsOf line) = none ∧ parse line = .error (.unknown (trimmed line)) := by
  cases hwords : ofWords? (wordsOf line) with
  | none => exact .inr ⟨rfl, parse_of_eq_none hwords⟩
  | some result =>
    have hmeans : Means (wordsOf line) result := means_of_ofWords? hwords
    rw [parse_of_means hmeans]
    exact .inl hmeans

/-- A line is a command if its words make it, and only then. -/
theorem parse_eq_ok_iff {line : String} {command : Command} :
    parse line = .ok command ↔ Reads (wordsOf line) command := by
  constructor
  · intro h
    rcases means_or_unknown line with hmeans | ⟨-, hunknown⟩
    · rwa [h] at hmeans
    · rw [h] at hunknown
      cases hunknown
  · intro h
    exact parse_of_means h

/-- A line fails for what its words do wrongly, or else because they do nothing. -/
theorem parse_eq_error_iff {line : String} {error : CommandError} :
    parse line = .error error ↔ Fails (wordsOf line) error ∨
      error = .unknown (trimmed line) ∧ (∀ command, ¬ Reads (wordsOf line) command) ∧
        ∀ failure, ¬ Fails (wordsOf line) failure := by
  rw [← ofWords?_eq_none_iff]
  constructor
  · intro h
    rcases means_or_unknown line with hmeans | ⟨hnone, hunknown⟩
    · rw [h] at hmeans
      exact .inl hmeans
    · rw [h, Except.error.injEq] at hunknown
      exact .inr ⟨hunknown, hnone⟩
  · rintro (hfails | ⟨rfl, hnone⟩)
    · exact parse_of_means hfails
    · exact parse_of_eq_none hnone

/-- Lines of the same words do the same, or nothing. -/
theorem parse_congr {a b : String} (h : wordsOf a = wordsOf b) :
    parse a = parse b ∨
      parse a = .error (.unknown (trimmed a)) ∧ parse b = .error (.unknown (trimmed b)) := by
  rcases means_or_unknown a with hmeans | ⟨hnone, hunknown⟩
  · rw [h] at hmeans
    exact .inl (parse_of_means hmeans).symm
  · rw [h] at hnone
    exact .inr ⟨hunknown, parse_of_eq_none hnone⟩

/-- The line that a command is usually written as is read as the command. -/
theorem parse_line {line : String} {command : Command} (h : parse line = .ok command) :
    parse command.line = .ok command := by
  have hreads : Reads (wordsOf line) command := parse_eq_ok_iff.mp h
  have hwords : wordsOf command.line = command.wording := by
    rw [line_eq, wordsOf_intercalate (hreads.isWord fun _ => isWord_of_mem_wordsOf)]
  rw [parse_eq_ok_iff, hwords]
  exact reads_wording command

/-- **Lines are read just as the grammar says.**  A line is a command exactly when its words make
    that command.  It fails for what its words do wrongly, and if there is nothing that they do, as
    an unknown command with the line trimmed.  So apart from that text only the words of a line
    count.  A type and a name make the same declaration as the long form, whatever the name.  And a
    command written as usual is read as that command again. -/
theorem parse_grammar :
    (∀ (line : String) (command : Command),
        parse line = .ok command ↔ Reads (wordsOf line) command) ∧
      (∀ (line : String) (error : CommandError),
        parse line = .error error ↔ Fails (wordsOf line) error ∨
          error = .unknown (trimmed line) ∧ (∀ command, ¬ Reads (wordsOf line) command) ∧
            ∀ failure, ¬ Fails (wordsOf line) failure) ∧
      (∀ a b : String, wordsOf a = wordsOf b → parse a = parse b ∨
        parse a = .error (.unknown (trimmed a)) ∧ parse b = .error (.unknown (trimmed b))) ∧
      (∀ (short long name text : String) (type : DataType), type.Spelled text →
        wordsOf short = [text, name] → wordsOf long = ["insert", name, text] →
        parse short = .ok (insert name type) ∧ parse long = .ok (insert name type)) ∧
      ∀ (line : String) (command : Command),
        parse line = .ok command → parse command.line = .ok command := by
  refine ⟨fun _ _ => parse_eq_ok_iff, fun _ _ => parse_eq_error_iff, fun _ _ => parse_congr, ?_,
    fun _ _ => parse_line⟩
  intro short long name text type htype hshort hlong
  constructor
  · rw [parse_eq_ok_iff, hshort]
    exact .shorthand htype
  · rw [parse_eq_ok_iff, hlong]
    exact .insert (.head _) htype

/-- A declaration of a name that begins a command, its type in mixed capitals and no spaces between
    the words; and a line for each way of failing. -/
theorem parse_grammar_mixed :
    parse "\tFlOaT\u00a0open\n" = .ok (insert "open" .float) ∧
      parse "insert open FlOaT" = .ok (insert "open" .float) ∧
      parse "insert open FLOAT" = .ok (insert "open" .float) ∧
      parse "lookup int lookup" = .error (.usage .lookup) ∧
      parse "decl int String" = .error (.unknownType "String") ∧
      parse " Open  now " = .error (.unknown "Open  now") := by
  obtain ⟨-, herror, -, hsame, hagain⟩ := parse_grammar
  obtain ⟨hshort, hlong⟩ := hsame "\tFlOaT\u00a0open\n" "insert open FlOaT" "open" "FlOaT" .float
    (by decide +kernel) (by decide +kernel) (by decide +kernel)
  have husage : wordsOf "lookup int lookup" = ["lookup", "int", "lookup"] := by decide +kernel
  have htype : wordsOf "decl int String" = ["decl", "int", "String"] := by decide +kernel
  have hunknown : ofWords? (wordsOf " Open  now ") = none := by decide +kernel
  refine ⟨hshort, hlong, hagain _ _ hshort, (herror _ _).mpr (.inl ?_), (herror _ _).mpr (.inl ?_),
    (herror _ _).mpr (.inr ⟨by decide +kernel, ofWords?_eq_none_iff.mp hunknown⟩)⟩
  · rw [husage]
    exact .usage (.head _) (by decide)
  · rw [htype]
    refine .unknownType (.tail _ (.head _)) fun type => ?_
    cases type <;> decide +kernel

end Command

end Frontend
