import Frontend.Pattern.Settings
import Frontend.Text.Numeral

namespace Frontend.Pattern

open Text (isLetter isLetterOrNumeral length_dropWhile_le)

/-!
# Groups

What an opening parenthesis begins.

* `Opening` — a group, or a change of settings;
* `readOpening?` — its reading.
-/

/-- What an opening parenthesis begins. -/
inductive Opening where
  /-- A group with settings of its own, and its name if it has one. -/
  | group (settings : Settings) (name : Option (List Char))
  /-- A change of the settings for the rest of the group around it. -/
  | change (settings : Settings)
  deriving DecidableEq

/-- Whether a text is a name for a group. -/
def isGroupName : List Char → Bool
  | [] => false
  | c :: rest =>
    (c == '_' || isLetter c) &&
      rest.all fun c => isLetterOrNumeral c || ['_', '.', '[', ']'].contains c

/-- Reads a name and the angle bracket behind it. -/
def readGroupName? (text : List Char) : Option (List Char × List Char) :=
  let name := text.takeWhile (· != '>')
  match text.dropWhile (· != '>') with
  | _ :: rest => if isGroupName name then some (name, rest) else none
  | [] => none

theorem length_le_of_readGroupName? {text name rest : List Char}
    (h : readGroupName? text = some (name, rest)) : rest.length ≤ text.length := by
  grind [readGroupName?, length_dropWhile_le]

/-- Reads a change of settings and what ends it: a colon begins a group, a parenthesis does not, but
    then something has to change. -/
def readChange? (settings : Settings) (text : List Char) : Option (Opening × List Char) :=
  let change := text.takeWhile fun c => c != ':' && c != ')'
  match text.dropWhile (fun c => c != ':' && c != ')'), settings.change? change with
  | ':' :: rest, some settings => some (.group settings none, rest)
  | ')' :: rest, some settings => if change.isEmpty then none else some (.change settings, rest)
  | _, _ => none

theorem length_le_of_readChange? {settings : Settings} {text rest : List Char} {opening : Opening}
    (h : readChange? settings text = some (opening, rest)) : rest.length ≤ text.length := by
  grind [readChange?, length_dropWhile_le]

/-- Reads what stands behind an opening parenthesis.  Behind a question mark may come a name in
    angle brackets or a change of settings; all else belongs to the group. -/
def readOpening? (settings : Settings) (text : List Char) : Option (Opening × List Char) :=
  match settings.skip text with
  | '?' :: 'P' :: '<' :: rest | '?' :: '<' :: rest =>
    match readGroupName? rest with
    | some (name, rest) => some (.group settings (some name), rest)
    | none => none
  | '?' :: rest => readChange? settings rest
  | rest => some (.group settings none, rest)

theorem length_le_of_readOpening? {settings : Settings} {text rest : List Char} {opening : Opening}
    (h : readOpening? settings text = some (opening, rest)) : rest.length ≤ text.length := by
  grind [readOpening?, Settings.length_skip_le, → length_le_of_readGroupName?,
    → length_le_of_readChange?]

/-- A colon or a name makes a group, and letters alone a change. -/
example :
    readOpening? {} ['?', 'i', ':', 'a'] = some (.group { ignoreCase := true } none, ['a']) ∧
      readOpening? {} ['?', '<', 'n', '>'] = some (.group {} (some ['n']), []) ∧
      readOpening? {} ['?', 'x', ')'] = some (.change { spaced := true }, []) ∧
      readOpening? {} ['?', '=', 'a'] = none := by decide +kernel

end Frontend.Pattern
