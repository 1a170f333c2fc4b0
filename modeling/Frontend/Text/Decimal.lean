namespace Frontend.Text

/-!
# Decimal numbers

* `isDecimal` — whether a text is a number: after a sign, if there is one, come digits, which may have
  a point and an exponent, or the name of what is no finite number.
-/

/-- A text without the sign at its start, if there is one. -/
def unsigned : List Char → List Char
  | '+' :: rest => rest
  | '-' :: rest => rest
  | text => text

/-- Whether a text is an exponent, or nothing at all. -/
def isExponent : List Char → Bool
  | [] => true
  | c :: rest =>
    (c == 'e' || c == 'E') && !(unsigned rest).isEmpty && (unsigned rest).all Char.isDigit

/-- Whether a text is digits, perhaps with a point before, between or after them, and then perhaps
    an exponent. -/
def isDigits (text : List Char) : Bool :=
  let whole := text.takeWhile Char.isDigit
  match text.drop whole.length with
  | '.' :: rest =>
    let fraction := rest.takeWhile Char.isDigit
    !(whole.isEmpty && fraction.isEmpty) && isExponent (rest.drop fraction.length)
  | rest => !whole.isEmpty && isExponent rest

/-- The names of what is no finite number. -/
def unboundedNames : List String := ["inf", "infinity", "nan"]

/-- Whether a text is a number, in digits of ASCII or by name. -/
def isDecimal (text : List Char) : Bool :=
  let body := unsigned text
  isDigits body || unboundedNames.contains (String.ofList (body.map Char.toLower))

/-- A point needs a digit on one side, an exponent on both, and one sign is enough. -/
example :
    isDecimal ['+', '5', '.'] = true ∧ isDecimal ['.'] = false ∧
      isDecimal ['.', '5', 'e', '-', '1'] = true ∧ isDecimal ['5', 'e'] = false ∧
      isDecimal ['-', '+', '1'] = false ∧ isDecimal ['-', 'I', 'n', 'f'] = true := by
  decide +kernel

end Frontend.Text
