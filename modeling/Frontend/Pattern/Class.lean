import Frontend.Pattern.Atom
import Frontend.Pattern.Parts

namespace Frontend.Pattern

open Text (length_dropWhile_le)

/-!
# Classes

A class in brackets stands for one of several characters.

* `Bracket` — what has been read of a class;
* `readItem?` — a character or a range of characters;
* `classNamed?` — a class given by its name;
* `readClass?` — a whole class, with the classes inside it; `readBrackets?` does the work.
-/

/-! ### What has been read -/

/-- What has been read of a class. -/
structure Bracket where
  /-- The height of what stands before the last operator, if there is one. -/
  operand : Option Nat := none
  /-- What stands behind it. -/
  items : Parts := {}
  /-- Whether nothing but hyphens has been read. -/
  fresh : Bool := true
  deriving DecidableEq

namespace Bracket

/-- One more item. -/
def add (bracket : Bracket) (height : Nat) : Bracket :=
  { bracket with items := bracket.items.add height, fresh := false }

/-- The height of what stands in the brackets. -/
def height (bracket : Bracket) : Nat :=
  match bracket.operand with
  | none => bracket.items.height
  | some operand => max operand bracket.items.height + 1

/-- Makes all that has been read the operand of an operator. -/
def operate (bracket : Bracket) : Bracket :=
  { operand := some bracket.height, fresh := false }

/-- Whether a character stands for itself since it is the first in its class: a closing bracket, and
    any number of hyphens. -/
def takesAsIs (bracket : Bracket) (c : Char) : Bool :=
  bracket.fresh && (c == '-' || (c == ']' && bracket.items.count == 0))

/-- Adds a character that stands for itself since it is the first in its class. -/
def addAsIs (bracket : Bracket) (c : Char) : Bracket :=
  { bracket.add 0 with fresh := c == '-' }

end Bracket

/-! ### Items -/

/-- Reads a character in a class that starts with `c`. -/
def readMember? (settings : Settings) (c : Char) (text : List Char) : Option (Atom × List Char) :=
  if c == '\\' then readEscape? settings text else some (.literal c false, text)

theorem length_le_of_readMember? {settings : Settings} {c : Char} {text rest : List Char}
    {atom : Atom} (h : readMember? settings c text = some (atom, rest)) :
    rest.length ≤ text.length := by
  unfold readMember? at h
  split at h
  · exact length_le_of_readEscape? h
  · cases h
    exact Nat.le_refl _

/-- Whether two atoms are the ends of a range, which are in order. -/
def isRange (settings : Settings) (first last : Atom) : Bool :=
  match first, last with
  | .literal low _, .literal high _ =>
    low ≤ high && settings.admitsInClass first && settings.admitsInClass last
  | _, _ => false

/-- What follows the hyphen of a range, if one starts `text`.  A hyphen before another one or before
    a closing bracket makes no range. -/
def rangeEnd? (settings : Settings) (text : List Char) : Option (List Char) :=
  match settings.skip text with
  | '-' :: rest =>
    if [some ']', some '-'].contains (settings.ahead? rest) then none else some (settings.skip rest)
  | _ => none

theorem length_lt_of_rangeEnd? {settings : Settings} {text rest : List Char}
    (h : rangeEnd? settings text = some rest) : rest.length < text.length := by
  have htext := settings.length_skip_le text
  unfold rangeEnd? at h
  split at h
  · rename_i inner heq
    have hinner := settings.length_skip_le inner
    simp only [Option.ite_none_left_eq_some, Option.some.injEq] at h
    simp only [heq, List.length_cons] at htext
    rw [← h.2]
    omega
  · cases h

/-- Goes past an item that starts with `c`: one character or kind, or a range. -/
def readItem? (settings : Settings) (c : Char) (text : List Char) : Option (List Char) :=
  match readMember? settings c text with
  | none => none
  | some (first, rest) =>
    match rangeEnd? settings rest with
    | none => if settings.admitsInClass first then some rest else none
    | some [] => none
    | some (d :: later) =>
      match readMember? settings d later with
      | none => none
      | some (last, later) => if isRange settings first last then some later else none

theorem length_le_of_readItem? {settings : Settings} {c : Char} {text rest : List Char}
    (h : readItem? settings c text = some rest) : rest.length ≤ text.length := by
  unfold readItem? at h
  split at h
  · cases h
  · rename_i hfirst
    have := length_le_of_readMember? hfirst
    split at h
    · simp only [Option.ite_none_right_eq_some, Option.some.injEq] at h
      exact h.2 ▸ this
    · cases h
    · rename_i hend
      have := length_lt_of_rangeEnd? hend
      split at h
      · cases h
      · rename_i hlast
        have := length_le_of_readMember? hlast
        simp only [Option.ite_none_right_eq_some, Option.some.injEq] at h
        simp only [List.length_cons] at *
        rw [← h.2]
        omega

/-! ### Classes by name -/

/-- The names of the classes that have one. -/
def classNames : List String :=
  ["alnum", "alpha", "ascii", "blank", "cntrl", "digit", "graph", "lower", "print", "punct",
   "space", "upper", "word", "xdigit"]

/-- A class given by its name between colons, from behind its bracket on: whether it is negated, by
    a circumflex before the name, and what follows it. -/
def classNamed? : List Char → Option (Bool × List Char)
  | ':' :: text =>
    let negated := text.head? == some '^'
    let text := if negated then text.tail else text
    match text.dropWhile (· != ':') with
    | ':' :: ']' :: rest =>
      if classNames.contains (String.ofList (text.takeWhile (· != ':'))) then some (negated, rest)
      else none
    | _ => none
  | _ => none

theorem length_le_of_classNamed? {text rest : List Char} {negated : Bool}
    (h : classNamed? text = some (negated, rest)) : rest.length ≤ text.length := by
  unfold classNamed? at h
  split at h <;> grind [length_dropWhile_le]

/-- Whether a class given by its name can be used. -/
def Settings.admitsNamed (settings : Settings) (negated : Bool) : Bool :=
  if settings.unicode then !settings.ignoreCase else !negated

/-! ### Whole classes -/

/-- Goes past the circumflex that negates a class, if there is one.  All bytes but some are never
    characters only. -/
def skipNegation? (settings : Settings) (text : List Char) : Option (List Char) :=
  match settings.skip text with
  | '^' :: rest => if settings.unicode then some rest else none
  | _ => some text

theorem length_le_of_skipNegation? {settings : Settings} {text rest : List Char}
    (h : skipNegation? settings text = some rest) : rest.length ≤ text.length := by
  have htext := settings.length_skip_le text
  unfold skipNegation? at h
  split at h
  · rename_i heq
    simp only [Option.ite_none_right_eq_some, Option.some.injEq] at h
    simp only [heq, List.length_cons] at htext
    rw [← h.2]
    omega
  · cases h
    exact Nat.le_refl _

/-- Whether a character behind another one like it is an operator. -/
def isOperator (c : Char) : Bool := c == '&' || c == '-' || c == '~'

/-- Reads what is left of a class: of the innermost one `bracket` has been read, and of those around
    it `outer`, the nearest first.  Gives the height of the class and what follows it. -/
def readBrackets? (settings : Settings) (bracket : Bracket) (outer : List Bracket)
    (text : List Char) : Option (Nat × List Char) :=
  match _ : settings.skip text with
  | [] => none
  | c :: rest =>
    if bracket.takesAsIs c then
      if settings.admitsInClass (.literal c false) then
        readBrackets? settings (bracket.addAsIs c) outer rest
      else none
    else if c == ']' then
      match outer with
      | [] => some (bracket.height + 1, rest)
      | around :: outer => readBrackets? settings (around.add (bracket.height + 1)) outer rest
    else if c == '[' then
      match _ : classNamed? rest with
      | some (negated, later) =>
        if settings.admitsNamed negated then readBrackets? settings (bracket.add 0) outer later
        else none
      | none =>
        match _ : skipNegation? settings rest with
        | some later => readBrackets? settings {} (bracket :: outer) later
        | none => none
    else if isOperator c && rest.head? == some c then
      readBrackets? settings bracket.operate outer rest.tail
    else
      match _ : readItem? settings c rest with
      | some later => readBrackets? settings (bracket.add 0) outer later
      | none => none
termination_by text.length
decreasing_by
  all_goals
    have hskip := settings.length_skip_le text
    have htext := congrArg List.length ‹settings.skip text = c :: rest›
    simp only [List.length_cons] at htext
  · omega
  · omega
  · have := length_le_of_classNamed? (by assumption)
    omega
  · have := length_le_of_skipNegation? (by assumption)
    omega
  · simp only [List.length_tail]
    omega
  · have := length_le_of_readItem? (by assumption)
    omega

theorem length_le_of_readBrackets? {settings : Settings} {bracket : Bracket} {outer : List Bracket}
    {text rest : List Char} {height : Nat}
    (h : readBrackets? settings bracket outer text = some (height, rest)) :
    rest.length ≤ text.length := by
  fun_induction readBrackets? settings bracket outer text <;>
    grind [Settings.length_skip_le, → length_le_of_classNamed?, → length_le_of_skipNegation?,
      → length_le_of_readItem?]

/-- Reads a class from behind its opening bracket on.  Gives its height and what follows it. -/
def readClass? (settings : Settings) (text : List Char) : Option (Nat × List Char) :=
  match skipNegation? settings text with
  | some later => readBrackets? settings {} [] later
  | none => none

theorem length_le_of_readClass? {settings : Settings} {text rest : List Char} {height : Nat}
    (h : readClass? settings text = some (height, rest)) : rest.length ≤ text.length := by
  grind [readClass?, → length_le_of_skipNegation?, → length_le_of_readBrackets?]

/-- A bracket that comes first stands for itself, and an operator needs no operands. -/
example :
    readClass? {} [']', ']', 'x'] = some (1, ['x']) ∧ readClass? {} [']'] = none ∧
      readClass? {} ['&', '&', ']'] = some (2, []) ∧
      readClass? {} ['b', '-', 'a', ']'] = none := by decide +kernel

end Frontend.Pattern
