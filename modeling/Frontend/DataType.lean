namespace Frontend

/-!
# Data types

The types a name can be declared with.

* `DataType.name` — the type as shown, in capitals;
* `DataType.keyword` — the type as written in a declaration;
* `DataType.ofText?` — reads a keyword in any mixture of ASCII cases.
-/

/-- A type of the small language: three for values, `void`, and `undefined` for a name whose type
    is not known. -/
inductive DataType where
  | int
  | float
  | char
  | void
  | undefined
  deriving DecidableEq, Inhabited

namespace DataType

/-- Every type, once. -/
def all : List DataType := [int, float, char, void, undefined]

/-- The type as it is shown. -/
def name : DataType → String
  | int => "INT"
  | float => "FLOAT"
  | char => "CHAR"
  | void => "VOID"
  | undefined => "UNDEFINED"

/-- The type as it is written in a declaration. -/
def keyword : DataType → String
  | int => "int"
  | float => "float"
  | char => "char"
  | void => "void"
  | undefined => "undefined"

/-- The type a text names.  Letters of ASCII may be written in either case; nothing is trimmed. -/
def ofText? (text : String) : Option DataType :=
  all.find? fun type => type.keyword == text.toLower

theorem mem_all (type : DataType) : type ∈ all := by
  cases type <;> decide

/-- No two types share a keyword. -/
theorem keyword_injective {a b : DataType} (h : a.keyword = b.keyword) : a = b := by
  revert h
  cases a <;> cases b <;> decide

/-- A text names a type exactly when it is the keyword of that type up to the case of its
    letters. -/
theorem ofText?_eq_some_iff {text : String} {type : DataType} :
    ofText? text = some type ↔ text.toLower = type.keyword := by
  constructor
  · intro h
    exact (by simpa using List.find?_some h : type.keyword = text.toLower).symm
  · intro h
    cases hfound : ofText? text with
    | none =>
      have := List.find?_eq_none.mp hfound type (mem_all type)
      simp [h] at this
    | some found =>
      have hkey : found.keyword = text.toLower := by simpa using List.find?_some hfound
      rw [keyword_injective (hkey.trans h)]

end DataType

end Frontend
