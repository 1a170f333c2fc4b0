import Frontend.Pattern.Class
import Frontend.Pattern.Group

namespace Frontend.Pattern

/-!
# Regular expressions

* `Body` — what has been read of a group;
* `Reading` — what has been read of an expression, and `Reading.step?` its next piece;
* `isWellFormed` — whether a text is a regular expression.

No repetition is written with braces, since an expression never holds a closing one where it is
used.
-/

/-! ### What has been read -/

/-- What has been read of a group. -/
structure Body where
  /-- How the next piece is read. -/
  settings : Settings
  /-- The alternatives before the one being read. -/
  alternatives : Parts := {}
  /-- The items of the alternative being read. -/
  items : Parts := {}
  /-- The height of the last of them, if it can be repeated. -/
  last : Option Nat := none
  deriving DecidableEq

namespace Body

/-- One more item. -/
def add (body : Body) (height : Nat) : Body :=
  { body with items := body.items.add height, last := some height }

/-- A change of settings, which is an item that cannot be repeated. -/
def change (body : Body) (settings : Settings) : Body :=
  { body with settings, items := body.items.add 0, last := none }

/-- Repeats the last item. -/
def repeated? (body : Body) : Option Body :=
  body.last.map fun height =>
    { body with
      items := { body.items with highest := max body.items.highest (height + 1) }
      last := some (height + 1) }

/-- Ends an alternative and begins the next. -/
def alternate (body : Body) : Body :=
  { settings := body.settings, alternatives := body.alternatives.add body.items.height }

/-- The height of what stands in the group. -/
def height (body : Body) : Nat := (body.alternatives.add body.items.height).height

end Body

/-- What has been read of an expression. -/
structure Reading where
  /-- The innermost group that is open, or the whole expression. -/
  body : Body
  /-- What is open around it, the nearest first. -/
  outer : List Body
  /-- The names of all groups so far. -/
  names : List (List Char)
  deriving DecidableEq

namespace Reading

/-- Nothing has been read. -/
def start : Reading := { body := { settings := {} }, outer := [], names := [] }

/-- One more item. -/
def add (reading : Reading) (height : Nat) : Reading :=
  { reading with body := reading.body.add height }

/-- Begins a group or changes the settings.  No two groups have the same name. -/
def enter? (reading : Reading) : Opening → Option Reading
  | .change settings => some { reading with body := reading.body.change settings }
  | .group settings name =>
    if name.any reading.names.contains then none
    else
      some
        { body := { settings }
          outer := reading.body :: reading.outer
          names := name.toList ++ reading.names }

/-- Ends a group.  With it end the changes of settings made inside it. -/
def leave? (reading : Reading) : Option Reading :=
  match reading.outer with
  | [] => none
  | around :: outer =>
    some { reading with body := around.add (reading.body.height + 1), outer }

/-- The largest height of an expression. -/
def heightLimit : Nat := 250

/-- Whether an expression may end here. -/
def isComplete (reading : Reading) : Bool :=
  reading.outer.isEmpty && reading.body.height ≤ heightLimit

/-! ### Reading on -/

/-- What follows a repetition.  A question mark belongs to it. -/
def afterRepetition : List Char → List Char
  | '?' :: rest => rest
  | rest => rest

theorem length_afterRepetition_le (text : List Char) :
    (afterRepetition text).length ≤ text.length := by
  fun_cases afterRepetition text <;> simp

/-- Takes in the piece that starts with `c`, and gives back what follows it. -/
def step? (reading : Reading) (c : Char) (text : List Char) : Option (Reading × List Char) :=
  let settings := reading.body.settings
  match c with
  | '(' =>
    match readOpening? settings text with
    | some (opening, rest) => (reading.enter? opening).map fun reading => (reading, rest)
    | none => none
  | ')' => reading.leave?.map fun reading => (reading, text)
  | '|' => some ({ reading with body := reading.body.alternate }, text)
  | '[' =>
    match readClass? settings text with
    | some (height, rest) => some (reading.add height, rest)
    | none => none
  | '*' | '+' | '?' =>
    reading.body.repeated?.map fun body => ({ reading with body }, afterRepetition text)
  | '\x7b' => none
  | c =>
    match readAtom? settings c text with
    | some (atom, rest) => if settings.admits atom then some (reading.add 0, rest) else none
    | none => none

theorem length_le_of_step? {reading later : Reading} {c : Char} {text rest : List Char}
    (h : reading.step? c text = some (later, rest)) : rest.length ≤ text.length := by
  simp only [step?] at h
  split at h <;> grind [Option.map_eq_some_iff, length_afterRepetition_le,
    → length_le_of_readOpening?, → length_le_of_readClass?, → length_le_of_readAtom?]

/-- Whether a text goes on to a well-formed end. -/
def isCompletedBy (reading : Reading) (text : List Char) : Bool :=
  match _ : reading.body.settings.skip text with
  | [] => reading.isComplete
  | c :: rest =>
    match _ : reading.step? c rest with
    | some (reading, later) => reading.isCompletedBy later
    | none => false
termination_by text.length
decreasing_by
  grind [Settings.length_skip_le, → length_le_of_step?]

theorem isCompletedBy_of_skip_eq_nil {reading : Reading} {text : List Char}
    (h : reading.body.settings.skip text = []) :
    reading.isCompletedBy text = reading.isComplete := by
  grind [isCompletedBy]

theorem isCompletedBy_of_step?_eq_some {reading next : Reading} {c : Char}
    {text rest later : List Char} (h : reading.body.settings.skip text = c :: rest)
    (hstep : reading.step? c rest = some (next, later)) :
    reading.isCompletedBy text = next.isCompletedBy later := by
  grind [isCompletedBy]

theorem isCompletedBy_of_step?_eq_none {reading : Reading} {c : Char} {text rest : List Char}
    (h : reading.body.settings.skip text = c :: rest) (hstep : reading.step? c rest = none) :
    reading.isCompletedBy text = false := by
  grind [isCompletedBy]

end Reading

/-- Whether a text is a well-formed regular expression. -/
def isWellFormed (text : List Char) : Bool := Reading.start.isCompletedBy text

/-- A repetition needs something to repeat, and whatever is opened has to be closed. -/
example :
    isWellFormed ['a', '+'] = true ∧ isWellFormed ['*'] = false ∧ isWellFormed ['(', 'a'] = false ∧
      isWellFormed ['[', ']', ']'] = true := by decide +kernel

/-- A change of settings ends with the group it stands in. -/
example :
    isWellFormed ['(', '(', '?', 'i', ')', ')', 'a'] = true ∧
      isWellFormed ['(', '(', '?', 'i', ')', 'a', ')'] = false := by decide +kernel

end Frontend.Pattern
