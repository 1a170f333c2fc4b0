import Frontend.Proofs.Script.Canonical
import Frontend.Proofs.Script.Join
import Mathlib.Data.List.Infix

namespace Frontend.Script

open Text

/-!
# Joining commands again

The commands that a script is cut into can be joined again, by newlines or by semicolons, to a
script of these commands.

* `canonical_iff` — what makes a text canonical, character by character;
* `Canonical.split_append` — a canonical text is the first command of a script that goes on after a
  separator;
* `split_intercalate_of_canonical` — joined canonical texts are cut apart where they were joined;
* `split_rejoined` — so the scripts are cut into just the lists of canonical texts.
-/

/-! ### Canonical texts -/

/-- A text is canonical if it is not empty, has no blank at either end, holds no newline, no
    semicolon and no mark of a comment, and a brace only if that is all of it. -/
theorem canonical_iff {command : List Char} :
    Canonical command ↔
      command ≠ [] ∧ command.head?.all (!isBlank ·) ∧ command.getLast?.all (!isBlank ·) ∧
        '\n' ∉ command ∧ ';' ∉ command ∧ '#' ∉ command ∧ ¬ ['/', '/'] <:+: command ∧
        ∀ c ∈ command, isBrace c = true → command = [c] := by
  constructor
  · rintro ⟨hne, htrim, hplain | ⟨c, hbrace, rfl⟩⟩
    · obtain ⟨hstart, hend⟩ := trim_eq_self_iff.mp htrim
      refine ⟨hne, hstart, hend, hplain.newline, hplain.semicolon, hplain.hash, hplain.slashes, ?_⟩
      intro c hc hbrace
      rw [hplain.brace c hc] at hbrace
      cases hbrace
    · simp only [isBrace, Bool.or_eq_true, beq_iff_eq] at hbrace
      have halone : ∀ d ∈ [c], isBrace d = true → [c] = [d] := by simp
      rcases hbrace with rfl | rfl
      · exact ⟨hne, rfl, rfl, by decide, by decide, by decide, by decide, halone⟩
      · exact ⟨hne, rfl, rfl, by decide, by decide, by decide, by decide, halone⟩
  · rintro ⟨hne, hstart, hend, hnewline, hsemicolon, hhash, hslashes, hbrace⟩
    refine ⟨hne, trim_eq_self hstart hend, ?_⟩
    by_cases hnone : ∃ c ∈ command, isBrace c = true
    · obtain ⟨c, hc, hbraced⟩ := hnone
      exact .inr ⟨c, hbraced, hbrace c hc hbraced⟩
    · refine .inl ⟨hnewline, hsemicolon, hhash, fun c hc => ?_, hslashes⟩
      rw [← Bool.not_eq_true]
      exact fun hbraced => hnone ⟨c, hc, hbraced⟩

instance (command : List Char) : Decidable (Canonical command) :=
  -- The characters of the text are gone through, not all that there are.
  have : Decidable (∀ c ∈ command, isBrace c = true → command = [c]) := List.decidableBAll _ _
  decidable_of_iff _ canonical_iff.symm

/-! ### Joined commands -/

/-- After a canonical text a separator ends the command, and it is the only one up to there. -/
theorem Canonical.split_append {command separator : String} (h : Canonical command.toList)
    (hseparator : separator ∈ ["\n", ";"]) (rest : String) :
    split (command ++ separator ++ rest) = command :: split rest := by
  have hjoined : split (command ++ separator ++ rest) = split command ++ split rest := by
    rw [List.mem_cons, List.mem_singleton] at hseparator
    rcases hseparator with rfl | rfl
    · exact split_append_newline command rest
    · -- No comment is open at the semicolon, since the text holds no mark of one.
      obtain ⟨-, -, -, -, -, hhash, hslashes, -⟩ := canonical_iff.mp h
      have hline : lastLine command.toList <:+ command.toList := List.rtakeWhile_suffix _ _
      exact split_append_semicolon (fun hmem => hhash (hline.subset hmem))
        (fun hinside => hslashes (hinside.trans hline.isInfix)) rest
  rw [hjoined, h.split_eq, List.singleton_append]

/-- **Canonical texts that are joined are cut apart where they were joined.** -/
theorem split_intercalate_of_canonical {separator : String} (hseparator : separator ∈ ["\n", ";"])
    {texts : List String} (h : ∀ text ∈ texts, Canonical text.toList) :
    split (separator.intercalate texts) = texts := by
  induction texts with
  | nil => rfl
  | cons text rest ih =>
    rw [List.forall_mem_cons] at h
    cases rest with
    | nil => rw [String.intercalate_singleton, h.1.split_eq]
    | cons next rest => rw [String.intercalate_cons_cons, h.1.split_append hseparator, ih h.2]

theorem canonical_of_mem_split {source command : String} (h : command ∈ split source) :
    Canonical command.toList := by
  obtain ⟨text, htext, rfl⟩ := List.mem_map.mp h
  rw [String.toList_ofList]
  exact canonical_of_mem_commands htext

/-- **Scripts are cut into the lists of canonical texts and no others.**  A text is canonical if it
    could be a command (`canonical_iff`).  Every command of a script is; canonical texts that are
    joined by newlines, or by semicolons, are just the commands of the joined script; so a script is
    cut once for all: its commands, joined either way, are cut into the same commands again. -/
theorem split_rejoined :
    (∀ text : List Char, Canonical text ↔
      text ≠ [] ∧ text.head?.all (!isBlank ·) ∧ text.getLast?.all (!isBlank ·) ∧
        '\n' ∉ text ∧ ';' ∉ text ∧ '#' ∉ text ∧ ¬ ['/', '/'] <:+: text ∧
        ∀ c ∈ text, isBrace c = true → text = [c]) ∧
      (∀ source : String, ∀ command ∈ split source, Canonical command.toList) ∧
      (∀ separator ∈ ["\n", ";"],
        (∀ texts : List String, (∀ text ∈ texts, Canonical text.toList) →
          split (separator.intercalate texts) = texts) ∧
        ∀ source : String, split (separator.intercalate (split source)) = split source) ∧
      ∀ texts : List String,
        (∃ source, split source = texts) ↔ ∀ text ∈ texts, Canonical text.toList := by
  refine ⟨fun text => canonical_iff, fun source command hmem => canonical_of_mem_split hmem,
    fun separator hseparator => ⟨fun texts htexts => ?_, fun source => ?_⟩, fun texts => ?_⟩
  · exact split_intercalate_of_canonical hseparator htexts
  · exact split_intercalate_of_canonical hseparator fun command hmem => canonical_of_mem_split hmem
  · constructor
    · rintro ⟨source, rfl⟩ text hmem
      exact canonical_of_mem_split hmem
    · intro htexts
      exact ⟨_, split_intercalate_of_canonical (List.mem_cons_self) htexts⟩

/-- Single slashes on both sides of a cut, a carriage return inside a command, and a brace. -/
theorem split_rejoined_slashes :
    let texts := ["a/", "/b\rc", "\x7d", "*/ /"]
    (∀ text ∈ texts, Canonical text.toList) ∧ split ("\n".intercalate texts) = texts ∧
      split (";".intercalate texts) = texts ∧
      (∀ command ∈ split "a/ ;/b\rc\x7d*/ / // d", Canonical command.toList) ∧
      split ("\n".intercalate (split "a/ ;/b\rc\x7d*/ / // d")) = split "a/ ;/b\rc\x7d*/ / // d" := by
  intro texts
  obtain ⟨-, hall, hjoined, -⟩ := split_rejoined
  have htexts : ∀ text ∈ texts, Canonical text.toList := by decide +kernel
  exact ⟨htexts, (hjoined "\n" (by decide)).1 texts htexts, (hjoined ";" (by decide)).1 texts htexts,
    hall _, (hjoined "\n" (by decide)).2 _⟩

end Frontend.Script
