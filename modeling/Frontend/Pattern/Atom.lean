import Frontend.Pattern.Settings

namespace Frontend.Pattern

/-!
# Atoms

The smallest pieces of a regular expression.

* `Atom` — what a character or an escape stands for;
* `readEscape?`, `readAtom?` — their reading;
* `Settings.admits`, `Settings.admitsInClass` — which of them can be used where.

An expression has to match text in UTF-8, and it has no table of letters, digits or cases beyond
ASCII.  That rules out what would need such a table and what would match a part of a character.
-/

/-- What a character or an escape stands for. -/
inductive Atom where
  /-- Itself.  `byte` tells that it is written as the number of a byte. -/
  | literal (c : Char) (byte : Bool)
  /-- Any character but a line feed. -/
  | any
  /-- A digit, a blank or a character of a word, or all others. -/
  | kind (negated : Bool)
  /-- A place at the start or at the end of a text or line. -/
  | anchor
  /-- A place where a word starts or ends, or any other. -/
  | wordEdge
  deriving DecidableEq

/-! ### Reading -/

/-- The value of a hexadecimal digit. -/
def hexValue? (c : Char) : Option Nat :=
  "0123456789abcdef".toList.idxOf? c.toLower

/-- Reads a character given by the hexadecimal digits of its number, of which `value` has been read
    and `digits` are to come. -/
def readCode? (settings : Settings) : Nat → Nat → List Char → Option (Char × List Char)
  | 0, value, text => if value.isValidChar then some (Char.ofNat value, text) else none
  | digits + 1, value, text =>
    match settings.skip text with
    | [] => none
    | c :: rest =>
      (hexValue? c).bind fun digit => readCode? settings digits (16 * value + digit) rest

theorem length_le_of_readCode? {settings : Settings} {digits value : Nat} {text rest : List Char}
    {c : Char} (h : readCode? settings digits value text = some (c, rest)) :
    rest.length ≤ text.length := by
  induction digits generalizing value text with
  | zero =>
    simp only [readCode?, Option.ite_none_right_eq_some, Option.some.injEq, Prod.mk.injEq] at h
    simp [h.2.2]
  | succ digits ih =>
    unfold readCode? at h
    have hskip := settings.length_skip_le text
    split at h
    · cases h
    · rename_i heq
      obtain ⟨_, -, h⟩ := Option.bind_eq_some_iff.mp h
      have := ih h
      simp only [heq, List.length_cons] at hskip
      omega

/-- The control characters that have a letter. -/
def controlLetters : List (Char × Char) :=
  [('a', '\x07'), ('t', '\t'), ('n', '\n'), ('v', '\x0b'), ('f', '\x0c'), ('r', '\r')]

/-- What a backslash makes of the character behind it.  Of the letters and digits few have a
    meaning; all else from ASCII stands for itself, angle brackets apart. -/
def escaped? (c : Char) : Option Atom :=
  match controlLetters.lookup c with
  | some control => some (.literal control false)
  | none =>
    if ['d', 's', 'w'].contains c then some (.kind false)
    else if ['D', 'S', 'W'].contains c then some (.kind true)
    else if ['A', 'z'].contains c then some .anchor
    else if ['b', 'B', '<', '>'].contains c then some .wordEdge
    else if c.toNat < 128 && !c.isAlphanum then some (.literal c false)
    else none

/-- How many hexadecimal digits follow some letters. -/
def codeLength? : Char → Option Nat
  | 'x' => some 2
  | 'u' => some 4
  | 'U' => some 8
  | _ => none

/-- Reads what follows a backslash, and gives back what stands behind it. -/
def readEscape? (settings : Settings) : List Char → Option (Atom × List Char)
  | [] => none
  | c :: rest =>
    match codeLength? c with
    | some digits =>
      (readCode? settings digits 0 rest).map fun (code, rest) => (.literal code (c == 'x'), rest)
    | none => (escaped? c).map fun atom => (atom, rest)

theorem length_le_of_readEscape? {settings : Settings} {text rest : List Char} {atom : Atom}
    (h : readEscape? settings text = some (atom, rest)) : rest.length ≤ text.length := by
  cases text with
  | nil => cases h
  | cons c text =>
    simp only [readEscape?] at h
    split at h
    · simp only [Option.map_eq_some_iff, Prod.exists, Prod.mk.injEq] at h
      obtain ⟨_, _, hread, -, rfl⟩ := h
      exact Nat.le_succ_of_le (length_le_of_readCode? hread)
    · simp only [Option.map_eq_some_iff, Prod.mk.injEq] at h
      obtain ⟨_, -, -, rfl⟩ := h
      exact Nat.le_succ _

/-- Reads an atom that starts with `c`. -/
def readAtom? (settings : Settings) (c : Char) (text : List Char) : Option (Atom × List Char) :=
  match c with
  | '\\' => readEscape? settings text
  | '.' => some (.any, text)
  | '^' | '$' => some (.anchor, text)
  | c => some (.literal c false, text)

theorem length_le_of_readAtom? {settings : Settings} {c : Char} {text rest : List Char}
    {atom : Atom} (h : readAtom? settings c text = some (atom, rest)) :
    rest.length ≤ text.length := by
  unfold readAtom? at h
  split at h
  · exact length_le_of_readEscape? h
  all_goals
    cases h
    exact Nat.le_refl _

/-! ### Use -/

/-- Whether an atom can stand by itself.  Bytes have cases and kinds, but a byte beyond ASCII and
    whatever could match one are parts of characters. -/
def Settings.admits (settings : Settings) : Atom → Bool
  | .literal c byte =>
    if settings.unicode then !settings.ignoreCase else !byte || c.toNat < 128
  | .any => settings.unicode
  | .kind negated => !settings.unicode && !negated
  | .anchor => true
  | .wordEdge => !settings.unicode

/-- Whether an atom can stand in a class.  A class of bytes has no room for other characters. -/
def Settings.admitsInClass (settings : Settings) : Atom → Bool
  | .literal c _ => if settings.unicode then !settings.ignoreCase else c.toNat < 128
  | .kind negated => !settings.unicode && !negated
  | .any | .anchor | .wordEdge => false

end Frontend.Pattern
