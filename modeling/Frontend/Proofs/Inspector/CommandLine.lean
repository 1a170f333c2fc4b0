import Frontend.Inspector.Program
import Mathlib.Data.List.Basic

namespace Frontend.Inspector

open Text (readCount? wordMax)

/-!
# Command lines, group by group

A command line is a row of groups: an option together with its value, the option that takes none,
or a word.  Groups that have nothing to do with each other may stand in any order.

* `ArgumentGroup` — a group, with `ArgumentGroup.arguments` how it is written, and
  `ArgumentGroup.Proper` whether it can be read;
* `Options.after` — the options after some groups;
* `Options.gather_group`, `Options.gather_groups` — options are gathered group by group;
* `Fault` — an option whose value is missing or is no count, and `Options.gather_fault` the end of
  the reading there;
* `exists_groups`, `eq_of_flatMap_arguments_eq` — every command line is a row of groups in just one
  way, up to its first fault if it has one;
* `Rearranged` — the same groups, in an order that keeps words among themselves and the groups of an
  option among themselves as they were;
* `arguments_read_by_groups` — the last group of an option counts, such a rearrangement changes
  nothing, and the first fault is told before there is a table.
-/

/-! ### Groups -/

/-- A part of a command line that is taken in one go. -/
inductive ArgumentGroup where
  /-- An option and the text of its value. -/
  | count (flag : Flag) (text : String)
  /-- The option to log everything. -/
  | verbose
  /-- An argument that is no option. -/
  | word (text : String)
  deriving DecidableEq

namespace ArgumentGroup

/-- A group as it is written. -/
def arguments : ArgumentGroup → List String
  | count flag text => [flag.text, text]
  | verbose => ["--verbose"]
  | word text => [text]

/-- A group that can be read: its value is a count, and its word is not one of the options. -/
def Proper : ArgumentGroup → Prop
  | count _ text => (readCount? text).isSome
  | verbose => True
  | word text => text ∉ ["--capacity", "--max-capacity", "--verbose"]

instance : DecidablePred Proper
  | count _ text => inferInstanceAs (Decidable ((readCount? text).isSome = true))
  | verbose => inferInstanceAs (Decidable True)
  | word text => inferInstanceAs (Decidable (text ∉ ["--capacity", "--max-capacity", "--verbose"]))

/-- Whether a group is one of an option. -/
def isFor (flag : Flag) : ArgumentGroup → Bool
  | count own _ => own == flag
  | _ => false

/-- The value that a group gives an option. -/
def value? (flag : Flag) : ArgumentGroup → Option Nat
  | count own text => if own = flag then readCount? text else none
  | _ => none

/-- The word that a group is. -/
def word? : ArgumentGroup → Option String
  | word text => some text
  | _ => none

theorem arguments_ne_nil (group : ArgumentGroup) : group.arguments ≠ [] := by
  cases group <;> simp [arguments]

theorem ne_verbose_of_proper {text : String} (h : (word text).Proper) : text ≠ "--verbose" := by
  rintro rfl
  simp [Proper] at h

/-- Only the groups of an option give it a value. -/
theorem value?_eq_none {flag : Flag} {group : ArgumentGroup} (h : group.isFor flag = false) :
    group.value? flag = none := by
  cases group with
  | count own text => exact if_neg (by simpa [isFor] using h)
  | verbose | word => rfl

end ArgumentGroup

/-- The values that groups give an option, in order. -/
def valuesFor (flag : Flag) (groups : List ArgumentGroup) : List Nat :=
  groups.filterMap (ArgumentGroup.value? flag)

/-- Only the groups of an option give it values. -/
theorem valuesFor_filter (flag : Flag) (groups : List ArgumentGroup) :
    valuesFor flag (groups.filter (ArgumentGroup.isFor flag)) = valuesFor flag groups := by
  rw [valuesFor, List.filterMap_filter, valuesFor]
  refine List.filterMap_congr fun group _ => ?_
  cases h : group.isFor flag with
  | true => rw [if_pos rfl]
  | false => rw [if_neg Bool.false_ne_true, ArgumentGroup.value?_eq_none h]

/-! ### Options after groups -/

/-- The options after some groups: the last value given counts, and the words come after those that
    were there. -/
def Options.after (options : Options) (groups : List ArgumentGroup) : Options where
  capacity := (valuesFor .capacity groups).getLast?.getD options.capacity
  maxCapacity := (valuesFor .maxCapacity groups).getLast?.getD options.maxCapacity
  verbose := options.verbose || groups.contains .verbose
  words := options.words ++ groups.filterMap ArgumentGroup.word?

namespace Options

@[simp] theorem after_nil (options : Options) : options.after [] = options := by
  simp [after, valuesFor]

/-- Groups change the options one after the other. -/
theorem after_cons (options : Options) (group : ArgumentGroup) (groups : List ArgumentGroup) :
    options.after (group :: groups) = (options.after [group]).after groups := by
  have hvalues (flag : Flag) (start : Nat) :
      (valuesFor flag (group :: groups)).getLast?.getD start =
        (valuesFor flag groups).getLast?.getD ((valuesFor flag [group]).getLast?.getD start) := by
    -- What the first group gives an option is where the later ones start from.
    rw [valuesFor, valuesFor, valuesFor, List.filterMap_cons, List.filterMap_cons]
    cases group.value? flag with
    | none => rfl
    | some value =>
      simp only [List.filterMap_nil, List.getLast?_cons, List.getLast?_nil, Option.getD_some,
        Option.getD_none]
  have hwords : (group :: groups).filterMap ArgumentGroup.word? =
      [group].filterMap ArgumentGroup.word? ++ groups.filterMap ArgumentGroup.word? := by
    rw [← List.filterMap_append, List.singleton_append]
  simp [after, hvalues, hwords, Bool.or_assoc]

theorem after_count (options : Options) (flag : Flag) {text : String} {value : Nat}
    (h : readCount? text = some value) :
    options.after [.count flag text] = options.set value flag := by
  cases flag <;> simp [after, valuesFor, ArgumentGroup.value?, ArgumentGroup.word?, h, set]

theorem after_verbose (options : Options) :
    options.after [.verbose] = { options with verbose := true } := by
  simp [after, valuesFor, ArgumentGroup.value?, ArgumentGroup.word?]

theorem after_word (options : Options) (text : String) :
    options.after [.word text] = { options with words := options.words ++ [text] } := by
  simp [after, valuesFor, ArgumentGroup.value?, ArgumentGroup.word?]

/-! ### Reading group by group -/

@[simp] theorem flag?_text (flag : Flag) : flag? flag.text = some flag := by
  cases flag <;> decide

/-- A word is not taken for an option. -/
theorem flag?_eq_none_of_notMem {text : String}
    (h : text ∉ ["--capacity", "--max-capacity", "--verbose"]) : flag? text = none := by
  simp only [List.mem_cons, not_or] at h
  rw [flag?, Flag.text, Flag.text, if_neg h.1, if_neg h.2.1]

/-- **One group is taken at a time**, and what stands after it is left for later. -/
theorem gather_group (options : Options) {group : ArgumentGroup} (h : group.Proper)
    (later : List String) :
    gather options (group.arguments ++ later) = gather (options.after [group]) later := by
  cases group with
  | count flag text =>
    obtain ⟨value, hvalue⟩ := Option.isSome_iff_exists.mp h
    rw [after_count options flag hvalue, ArgumentGroup.arguments, List.cons_append, gather,
      flag?_text]
    simp only [List.singleton_append, hvalue]
  | verbose =>
    rw [after_verbose]
    rfl
  | word text =>
    rw [after_word, ArgumentGroup.arguments, List.singleton_append, gather,
      flag?_eq_none_of_notMem h]
    simp only [if_neg (ArgumentGroup.ne_verbose_of_proper h)]

/-- **So all groups are taken**, each of them once. -/
theorem gather_groups (options : Options) {groups : List ArgumentGroup}
    (h : ∀ group ∈ groups, group.Proper) (later : List String) :
    gather options (groups.flatMap ArgumentGroup.arguments ++ later) =
      gather (options.after groups) later := by
  induction groups generalizing options with
  | nil => rw [after_nil, List.flatMap_nil, List.nil_append]
  | cons group groups ih =>
    rw [List.forall_mem_cons] at h
    rw [List.flatMap_cons, List.append_assoc, gather_group options h.1, ih _ h.2, ← after_cons]

end Options

/-- Arguments that begin with an option whose value is missing or is no count. -/
inductive Fault : List String → OptionError → Prop where
  | missingValue (flag : Flag) : Fault [flag.text] (.missingValue flag)
  | badValue (flag : Flag) {text : String} (later : List String) (h : readCount? text = none) :
    Fault (flag.text :: text :: later) (.badValue flag)

/-- At a fault the reading ends. -/
theorem Options.gather_fault (options : Options) {arguments : List String} {error : OptionError}
    (h : Fault arguments error) : gather options arguments = .error error := by
  cases h with
  | missingValue flag => rw [gather, flag?_text]
  | badValue flag later htext =>
    rw [gather, flag?_text]
    simp only [htext]

/-! ### Every command line is a row of groups -/

/-- Arguments begin with a group or with a fault. -/
theorem group_or_fault (argument : String) (rest : List String) :
    (∃ (group : ArgumentGroup) (later : List String), group.Proper ∧
        group.arguments ++ later = argument :: rest) ∨
      ∃ error, Fault (argument :: rest) error := by
  have hflag (flag : Flag) : (∃ (group : ArgumentGroup) (later : List String), group.Proper ∧
      group.arguments ++ later = flag.text :: rest) ∨ ∃ error, Fault (flag.text :: rest) error := by
    cases rest with
    | nil => exact .inr ⟨_, .missingValue flag⟩
    | cons text later =>
      cases htext : readCount? text with
      | none => exact .inr ⟨_, .badValue flag later htext⟩
      | some value =>
        have hproper : (ArgumentGroup.count flag text).Proper := by
          rw [ArgumentGroup.Proper, htext]
          rfl
        exact .inl ⟨.count flag text, later, hproper, rfl⟩
  by_cases hoption : argument ∈ ["--capacity", "--max-capacity", "--verbose"]
  · simp only [List.mem_cons, List.not_mem_nil, or_false] at hoption
    rcases hoption with rfl | rfl | rfl
    · exact hflag .capacity
    · exact hflag .maxCapacity
    · exact .inl ⟨.verbose, rest, trivial, rfl⟩
  · exact .inl ⟨.word argument, rest, hoption, rfl⟩

/-- **Every command line is a row of groups**, up to its first fault if it has one. -/
theorem exists_groups (arguments : List String) :
    ∃ groups : List ArgumentGroup, (∀ group ∈ groups, group.Proper) ∧
      (groups.flatMap ArgumentGroup.arguments = arguments ∨
        ∃ rest error, Fault rest error ∧
          groups.flatMap ArgumentGroup.arguments ++ rest = arguments) := by
  -- Induction on the number of arguments, since a group takes one of them or two.
  induction hlength : arguments.length using Nat.strongRecOn generalizing arguments with
  | ind length ih =>
    cases arguments with
    | nil => exact ⟨[], by simp, .inl rfl⟩
    | cons argument rest =>
      rcases group_or_fault argument rest with ⟨group, later, hgroup, hwritten⟩ | ⟨error, hfault⟩
      · have hshorter : later.length < length := by
          have := List.length_pos_of_ne_nil group.arguments_ne_nil
          rw [← hlength, ← hwritten, List.length_append]
          omega
        obtain ⟨groups, hproper, hgroups⟩ := ih _ hshorter later rfl
        refine ⟨group :: groups, List.forall_mem_cons.mpr ⟨hgroup, hproper⟩, ?_⟩
        rw [List.flatMap_cons, ← hwritten]
        rcases hgroups with rfl | ⟨rest, error, hfault, rfl⟩
        · exact .inl rfl
        · exact .inr ⟨rest, error, hfault, List.append_assoc ..⟩
      · exact ⟨[], by simp, .inr ⟨_, error, hfault, rfl⟩⟩

/-- The group that arguments begin with, and the arguments after it. -/
def ArgumentGroup.read? : List String → Option (ArgumentGroup × List String)
  | [] => none
  | argument :: rest =>
    match Options.flag? argument with
    | some flag => rest.head?.map fun text => (.count flag text, rest.tail)
    | none => some (if argument = "--verbose" then .verbose else .word argument, rest)

theorem ArgumentGroup.read?_arguments {group : ArgumentGroup} (h : group.Proper)
    (later : List String) : read? (group.arguments ++ later) = some (group, later) := by
  cases group with
  | count flag text =>
    rw [arguments, List.cons_append, List.singleton_append, read?, Options.flag?_text]
    rfl
  | verbose => rfl
  | word text =>
    rw [arguments, List.singleton_append, read?, Options.flag?_eq_none_of_notMem h]
    simp only [if_neg (ne_verbose_of_proper h)]

/-- **In no other way** is a command line a row of groups. -/
theorem eq_of_flatMap_arguments_eq {first second : List ArgumentGroup}
    (hfirst : ∀ group ∈ first, group.Proper) (hsecond : ∀ group ∈ second, group.Proper)
    (h : first.flatMap ArgumentGroup.arguments = second.flatMap ArgumentGroup.arguments) :
    first = second := by
  induction first generalizing second with
  | nil =>
    cases second with
    | nil => rfl
    | cons other others =>
      rw [List.flatMap_nil, List.flatMap_cons] at h
      exact absurd (List.append_eq_nil_iff.mp h.symm).1 other.arguments_ne_nil
  | cons group groups ih =>
    cases second with
    | nil =>
      rw [List.flatMap_nil, List.flatMap_cons] at h
      exact absurd (List.append_eq_nil_iff.mp h).1 group.arguments_ne_nil
    | cons other others =>
      rw [List.forall_mem_cons] at hfirst hsecond
      have hread := congrArg ArgumentGroup.read? h
      rw [List.flatMap_cons, List.flatMap_cons, ArgumentGroup.read?_arguments hfirst.1,
        ArgumentGroup.read?_arguments hsecond.1, Option.some.injEq, Prod.mk.injEq] at hread
      rw [hread.1, ih hfirst.2 hsecond.2 hread.2]

/-- Among groups that can be read, only the request to log everything is written like it. -/
theorem verbose_mem_flatMap_iff {groups : List ArgumentGroup}
    (h : ∀ group ∈ groups, group.Proper) :
    "--verbose" ∈ groups.flatMap ArgumentGroup.arguments ↔ .verbose ∈ groups := by
  rw [List.mem_flatMap]
  constructor
  · rintro ⟨group, hgroup, hmem⟩
    have hproper := h group hgroup
    cases group with
    | count flag text =>
      -- Written as the value of another option it would be no count.
      have hflag : "--verbose" ≠ flag.text := by cases flag <;> decide
      have htext : "--verbose" = text := by simpa [ArgumentGroup.arguments, hflag] using hmem
      have hnone : readCount? "--verbose" = none := by decide +kernel
      rw [ArgumentGroup.Proper, ← htext, hnone] at hproper
      cases hproper
    | verbose => exact hgroup
    | word text =>
      rw [ArgumentGroup.arguments, List.mem_singleton] at hmem
      exact absurd hmem.symm (ArgumentGroup.ne_verbose_of_proper hproper)
  · intro hmem
    exact ⟨.verbose, hmem, List.mem_singleton.mpr rfl⟩

/-! ### Rearranging groups -/

/-- Two rows of the same groups, where the words stand in the same order and so do the groups of
    each option. -/
structure Rearranged (first second : List ArgumentGroup) : Prop where
  perm : first.Perm second
  words : first.filterMap ArgumentGroup.word? = second.filterMap ArgumentGroup.word?
  counts : ∀ flag : Flag,
    first.filter (ArgumentGroup.isFor flag) = second.filter (ArgumentGroup.isFor flag)

/-- Such rows make the same options. -/
theorem Rearranged.after_eq {first second : List ArgumentGroup} (h : Rearranged first second)
    (options : Options) : options.after first = options.after second := by
  have hvalues (flag : Flag) : valuesFor flag first = valuesFor flag second := by
    rw [← valuesFor_filter, h.counts, valuesFor_filter]
  have hverbose : first.contains .verbose = second.contains .verbose := by
    rw [Bool.eq_iff_iff, List.contains_iff_mem, List.contains_iff_mem, h.perm.mem_iff]
  rw [Options.after, Options.after, hvalues, hvalues, h.words, hverbose]

/-! ### From the options to the end of the program -/

/-- Command lines that make the same options make the same table and ask for the same task. -/
theorem startUp_congr {first second : List String}
    (h : Options.gather {} first = Options.gather {} second) : startUp first = startUp second := by
  rw [startUp, startUp, Options.parse, Options.parse, h]

/-- A task does not look at the command line again. -/
theorem perform_arguments (surroundings : Surroundings) (arguments : List String)
    (table : Table Capped) (task : Task) :
    { surroundings with arguments }.perform table task = surroundings.perform table task := by
  cases task <;> rfl

/-- So what follows is the same, too. -/
theorem run_congr {first second : List String} (h : startUp first = startUp second)
    (surroundings : Surroundings) :
    run { surroundings with arguments := first } =
      run { surroundings with arguments := second } := by
  simp only [run, h, perform_arguments]

/-- The program ends with exit code 1 before there is a table, and says only why. -/
structure RefusedFor (arguments : List String) (reason : String) : Prop where
  startUp_eq : ∃ error, startUp arguments = .refused error
  run_eq : ∀ surroundings : Surroundings, run { surroundings with arguments } =
    { exit := .code 1, stdout := "", stderr := s!"Error: {reason}\n" }

/-- At the first fault the command line is refused. -/
theorem refusedFor_of_fault {groups : List ArgumentGroup} (h : ∀ group ∈ groups, group.Proper)
    {rest : List String} {error : OptionError} (hfault : Fault rest error) :
    RefusedFor (groups.flatMap ArgumentGroup.arguments ++ rest) error.message := by
  have hstart : startUp (groups.flatMap ArgumentGroup.arguments ++ rest) = .refused error := by
    rw [startUp, Options.parse, Options.gather_groups {} h, Options.gather_fault _ hfault]
    rfl
  refine ⟨⟨error, hstart⟩, fun surroundings => ?_⟩
  simp only [run, hstart]
  simp [report, Chunk.onStdout, Chunk.onStderr, String.join]

/-- **A command line is read group by group.**  For all groups that can be read,

    * the options are those that the groups make: a count is the last one given for its option, or
      else 10 for the first slots and the largest count for the ceiling; everything is logged just
      if that is asked for; and the words stand in their order;
    * no argument is left or taken twice: what stands after the groups is read with these options,
      and in no other groups could the arguments be taken;
    * if the groups are rearranged, the program makes the same table for the same task, and all that
      it puts out is the same;
    * if an option follows whose value is missing or is no count, the program ends with exit code 1
      before there is a table, and what it says is what is wrong with this option.

    And every command line is made of such groups, perhaps with such an option after them. -/
theorem arguments_read_by_groups :
    (∀ groups : List ArgumentGroup, (∀ group ∈ groups, group.Proper) →
      let arguments := groups.flatMap ArgumentGroup.arguments
      let options : Options := {
        capacity := (valuesFor .capacity groups).getLast?.getD 10
        maxCapacity := (valuesFor .maxCapacity groups).getLast?.getD wordMax
        verbose := decide ("--verbose" ∈ arguments)
        words := groups.filterMap ArgumentGroup.word? }
      Options.gather {} arguments = .ok options ∧
        (∀ later, Options.gather {} (arguments ++ later) = Options.gather options later) ∧
        (∀ others : List ArgumentGroup, (∀ group ∈ others, group.Proper) →
          others.flatMap ArgumentGroup.arguments = arguments → others = groups) ∧
        (∀ others : List ArgumentGroup, Rearranged groups others →
          let rearranged := others.flatMap ArgumentGroup.arguments
          startUp rearranged = startUp arguments ∧
            ∀ surroundings : Surroundings,
              run { surroundings with arguments := rearranged } =
                run { surroundings with arguments }) ∧
        (∀ flag : Flag,
          RefusedFor (arguments ++ [flag.text]) s!"{flag.text} requires a value") ∧
        ∀ (flag : Flag) (text : String) (later : List String), readCount? text = none →
          RefusedFor (arguments ++ flag.text :: text :: later)
            s!"{flag.text} value must be a non-negative integer") ∧
      ∀ arguments : List String,
        ∃ groups : List ArgumentGroup, (∀ group ∈ groups, group.Proper) ∧
          (groups.flatMap ArgumentGroup.arguments = arguments ∨
            ∃ rest error, Fault rest error ∧
              groups.flatMap ArgumentGroup.arguments ++ rest = arguments) := by
  refine ⟨fun groups hproper => ?_, exists_groups⟩
  intro arguments options
  have hoptions : ({} : Options).after groups = options := by
    have hverbose : groups.contains .verbose = decide ("--verbose" ∈ arguments) := by
      rw [Bool.eq_iff_iff, List.contains_iff_mem, decide_eq_true_iff,
        verbose_mem_flatMap_iff hproper]
    rw [Options.after, Bool.false_or, List.nil_append, hverbose]
    rfl
  have hlater (later : List String) :
      Options.gather {} (arguments ++ later) = Options.gather options later := by
    rw [Options.gather_groups {} hproper, hoptions]
  have hgather : Options.gather {} arguments = .ok options := by
    have hend := hlater []
    rwa [List.append_nil] at hend
  refine ⟨hgather, hlater, ?_, ?_, ?_, ?_⟩
  · intro others hothers hsame
    exact eq_of_flatMap_arguments_eq hothers hproper hsame
  · intro others hrearranged rearranged
    have hothers : ∀ group ∈ others, group.Proper :=
      fun group hmem => hproper group (hrearranged.perm.mem_iff.mpr hmem)
    have hstart : startUp rearranged = startUp arguments := by
      have hend := Options.gather_groups {} hothers []
      rw [List.append_nil, ← hrearranged.after_eq, hoptions] at hend
      exact startUp_congr (hend.trans hgather.symm)
    exact ⟨hstart, run_congr hstart⟩
  · intro flag
    exact refusedFor_of_fault hproper (.missingValue flag)
  · intro flag text later htext
    exact refusedFor_of_fault hproper (.badValue flag later htext)

/-- Options before, between and after the words, one of them twice; and two faults, of which the
    first is told, since what looks like an option stands where its value belongs. -/
theorem arguments_read_by_groups_mixed :
    let first := ["-e", "--capacity", "07", "--verbose", "int x", "--max-capacity", "+8",
      "--capacity", "2"]
    let second := ["--max-capacity", "+8", "--capacity", "07", "-e", "--capacity", "2", "int x",
      "--verbose"]
    Options.gather {} first =
        .ok { capacity := 2, maxCapacity := 8, verbose := true, words := ["-e", "int x"] } ∧
      startUp second = startUp first ∧
      (∀ surroundings : Surroundings,
        run { surroundings with arguments := second } =
          run { surroundings with arguments := first }) ∧
      RefusedFor (first ++ ["--max-capacity"]) "--max-capacity requires a value" ∧
      RefusedFor (first ++ ["--capacity", "--verbose", "--max-capacity"])
        "--capacity value must be a non-negative integer" := by
  intro first second
  let groups : List ArgumentGroup := [.word "-e", .count .capacity "07", .verbose, .word "int x",
    .count .maxCapacity "+8", .count .capacity "2"]
  let others : List ArgumentGroup := [.count .maxCapacity "+8", .count .capacity "07", .word "-e",
    .count .capacity "2", .word "int x", .verbose]
  have hproper : ∀ group ∈ groups, group.Proper := by decide +kernel
  have hrearranged : Rearranged groups others :=
    ⟨by decide, by decide, fun flag => by cases flag <;> decide⟩
  have hnone : readCount? "--verbose" = none := by decide +kernel
  obtain ⟨hgather, -, -, hsame, hmissing, hbad⟩ := arguments_read_by_groups.1 groups hproper
  obtain ⟨hstart, hrun⟩ := hsame others hrearranged
  exact ⟨hgather.trans (congrArg Except.ok (by decide +kernel)), hstart, hrun,
    hmissing .maxCapacity, hbad .capacity "--verbose" ["--max-capacity"] hnone⟩

end Frontend.Inspector
