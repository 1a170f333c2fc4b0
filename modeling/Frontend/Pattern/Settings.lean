import Frontend.Text.Blank
import Frontend.Text.Split

namespace Frontend.Pattern

open Text (isBlank splitWhere)

/-!
# Settings of an expression

A regular expression can change how the rest of it is read.

* `Settings` — what can be changed and matters here;
* `Settings.change?` — the change that a group of letters makes;
* `Settings.skip` — goes past what does not count where an expression may be spaced out.
-/

/-- How an expression is read from some place of it on. -/
structure Settings where
  /-- Whether a letter stands for its other case as well. -/
  ignoreCase : Bool := false
  /-- Whether a character is one of Unicode, or else a byte. -/
  unicode : Bool := true
  /-- Whether blanks and comments do not count. -/
  spaced : Bool := false
  deriving DecidableEq

namespace Settings

/-! ### Changes -/

/-- The letters that switch something on or off. -/
def letters : List Char := ['i', 'm', 's', 'U', 'u', 'R', 'x']

/-- Switches on or off what a letter stands for.  The other letters change what an expression
    matches, but not whether it is one. -/
def switch (settings : Settings) (on : Bool) : Char → Settings
  | 'i' => { settings with ignoreCase := on }
  | 'u' => { settings with unicode := on }
  | 'x' => { settings with spaced := on }
  | _ => settings

/-- The settings after a change: letters to switch on, then perhaps a hyphen and letters to switch
    off.  No letter is named twice. -/
def change? (settings : Settings) (change : List Char) : Option Settings :=
  let switched (on off : List Char) :=
    if (on ++ off).all letters.contains && decide (on ++ off).Nodup then
      some (off.foldl (switch · false) (on.foldl (switch · true) settings))
    else none
  match splitWhere (· == '-') change with
  | [on] => switched on []
  | [on, off] => if off.isEmpty then none else switched on off
  | _ => none

/-- A hyphen needs letters behind it, and one is enough. -/
example :
    change? {} ['i', '-', 'u'] = some { ignoreCase := true, unicode := false } ∧
      change? {} [] = some {} ∧ change? {} ['i', '-'] = none ∧
      change? {} ['i', '-', 'i'] = none := by decide +kernel

/-! ### Blanks and comments -/

/-- What is left of a text behind the blanks and comments at its start.  A comment begins with a
    number sign and ends with its line; `comment` tells whether the text starts inside one. -/
def skipBlanks (comment : Bool) : List Char → List Char
  | [] => []
  | c :: rest =>
    if comment then skipBlanks (c != '\n') rest
    else if c == '#' then skipBlanks true rest
    else if isBlank c then skipBlanks false rest
    else c :: rest

theorem length_skipBlanks_le (comment : Bool) (text : List Char) :
    (skipBlanks comment text).length ≤ text.length := by
  fun_induction skipBlanks comment text <;> simp <;> omega

/-- What is left of a text behind what does not count at its start. -/
def skip (settings : Settings) (text : List Char) : List Char :=
  if settings.spaced then skipBlanks false text else text

theorem length_skip_le (settings : Settings) (text : List Char) :
    (settings.skip text).length ≤ text.length := by
  unfold skip
  split
  · exact length_skipBlanks_le false text
  · exact Nat.le_refl _

/-- The character ahead, for a decision that does not go past anything yet.  It looks behind blanks
    and one number sign, but not behind the rest of a comment; where nothing else follows, blanks
    count. -/
def ahead? (settings : Settings) (text : List Char) : Option Char :=
  if settings.spaced then
    match text.dropWhile isBlank with
    | '#' :: rest => (rest.dropWhile isBlank).head?.or text.head?
    | rest => rest.head?.or text.head?
  else text.head?

end Settings

end Frontend.Pattern
