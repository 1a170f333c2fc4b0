import Frontend.Text.Split

namespace Frontend.Script

open Text (lines place? splitWhere substitute trim)

/-!
# The commands of a script

A script is cut into the texts of its commands: newlines and semicolons end a command, a brace is
always a command of its own, and a comment reaches from `#` or `//` to the end of its line.

* `commentMarks`, `commentStart` — what begins a comment, and where in a line;
* `beforeComment` — the part of a line before its comment;
* `isolateBraces` — the line with a semicolon on either side of each brace;
* `lineCommands` — the commands of one line;
* `commands` — the commands of a script, and `split` the same on strings.
-/

/-! ### Comments -/

/-- What begins a comment. -/
def commentMarks : List (List Char) := [['#'], ['/', '/']]

/-- Where the first comment of a line begins; the length of a line without one. -/
def commentStart (line : List Char) : Nat :=
  (commentMarks.filterMap (place? · line)).min?.getD line.length

/-- The part of a line before its first comment; all of a line without one. -/
def beforeComment (line : List Char) : List Char := line.take (commentStart line)

/-! ### Braces -/

/-- A line in which every brace stands between semicolons. -/
def isolateBraces (line : List Char) : List Char :=
  substitute '\x7d' [';', '\x7d', ';'] (substitute '\x7b' [';', '\x7b', ';'] line)

/-! ### Commands -/

/-- The commands of one line: what stands between semicolons, trimmed, unless nothing is left. -/
def lineCommands (line : List Char) : List (List Char) :=
  ((splitWhere (· == ';') (isolateBraces (beforeComment line))).map trim).filter fun command =>
    !command.isEmpty

/-- The commands of a script, line by line. -/
def commands (source : List Char) : List (List Char) :=
  (lines source).flatMap lineCommands

/-- A brace needs nothing around it, and a comment hides what follows it on its line only. -/
example :
    commands ['a', '\x7b', 'b', ';', ';', ' ', '#', '\x7d', '\n', '\x7d'] =
      [['a'], ['\x7b'], ['b'], ['\x7d']] := by decide

/-- The commands of a script given as a string. -/
def split (source : String) : List String :=
  (commands source.toList).map String.ofList

end Frontend.Script
