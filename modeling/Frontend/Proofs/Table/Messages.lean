import Frontend.Event
import Frontend.Proofs.Text.Fields

namespace Frontend

open Text (cutLast cutLast_append fields_append isDigit_of_mem_repr numbers numbers_append
  numbers_cons numbers_repr words words_eq_fields words_repr)

/-!
# Reading messages back

A message for debugging that tells of a change tells all about it, whatever characters a name in it
has.

* `Event.ofMessage?` — the change a message tells of;
* `Event.ofMessage?_opened`, `Event.ofMessage?_inserted`, `Event.ofMessage?_closed` — what was
  written is read.
-/

namespace Event

/-- What follows the quoted name in the message of a declaration. -/
def facts (type : DataType) (level : Nat) : List Char :=
  (" (" ++ type.name ++ ") into scope level").toList ++ ' ' :: level.repr.toList

/-- The change a message for debugging tells of, recognized by its first letter.  A name may have
    quotes in it, but what follows it has none, so it reaches up to the last one. -/
def ofMessage? (message : String) : Option Event :=
  match message.toList with
  | 'O' :: rest =>
    match numbers rest with
    | [level] => some (.opened level)
    | _ => none
  | 'C' :: rest =>
    match numbers rest with
    | [level, count] => some (.closed level count)
    | _ => none
  | 'I' :: rest =>
    let (quoted, facts) := cutLast '\'' rest
    let name := String.ofList (quoted.drop "nserted '".length)
    let type? := DataType.all.find? fun type =>
      (words facts).head? == some ("(" ++ type.name ++ ")").toList
    match type?, numbers facts with
    | some type, [level] => some (.inserted name type level)
    | _, _ => none
  | _ => none

theorem ofMessage?_opened (level : Nat) :
    ofMessage? (opened level).message = some (.opened level) := by
  have hmessage : (opened level).message = "Opened scope level " ++ level.repr := rfl
  have htext : (opened level).message.toList =
      'O' :: ("pened scope level".toList ++ ' ' :: level.repr.toList) := by
    simp [hmessage]
  have hnumbers : numbers ("pened scope level".toList ++ ' ' :: level.repr.toList) = [level] := by
    rw [numbers_append rfl, numbers_repr]
    rfl
  simp only [ofMessage?, htext, hnumbers]

theorem ofMessage?_closed (level count : Nat) :
    ofMessage? (closed level count).message = some (.closed level count) := by
  have hmessage : (closed level count).message =
      "Closed scope level " ++ level.repr ++ " (" ++ count.repr ++ " entries)" := rfl
  have htext : (closed level count).message.toList =
      'C' :: ("losed scope level".toList ++ ' ' :: (level.repr.toList ++ ' ' :: '(' ::
        (count.repr.toList ++ ' ' :: "entries)".toList))) := by
    simp [hmessage]
  have hnumbers : numbers ("losed scope level".toList ++ ' ' :: (level.repr.toList ++ ' ' :: '(' ::
      (count.repr.toList ++ ' ' :: "entries)".toList))) = [level, count] := by
    rw [numbers_append rfl, numbers_append rfl, numbers_cons rfl, numbers_append rfl, numbers_repr,
      numbers_repr]
    rfl
  simp only [ofMessage?, htext, hnumbers]

/-! ### Declarations -/

/-- What follows a name has no quote in it. -/
theorem quote_notMem_facts (type : DataType) (level : Nat) : '\'' ∉ facts type level := by
  have hquote : '\'' ∉ level.repr.toList := fun h => by cases isDigit_of_mem_repr h
  rw [facts, List.mem_append, List.mem_cons, not_or, not_or]
  refine ⟨?_, by decide, hquote⟩
  cases type <;> decide +kernel

theorem numbers_facts (type : DataType) (level : Nat) : numbers (facts type level) = [level] := by
  rw [facts, numbers_append rfl, numbers_repr]
  cases type <;> rfl

/-- The first word that follows a name tells the type. -/
theorem find?_type_facts (type : DataType) (level : Nat) :
    (DataType.all.find? fun other =>
      (words (facts type level)).head? == some ("(" ++ other.name ++ ")").toList) = some type := by
  have hspace : words (facts type level) =
      words (" (" ++ type.name ++ ") into scope level").toList ++ [level.repr.toList] := by
    rw [facts, words_eq_fields, fields_append rfl, ← words_eq_fields, ← words_eq_fields, words_repr]
  rw [hspace]
  cases type <;> rfl

theorem ofMessage?_inserted (name : String) (type : DataType) (level : Nat) :
    ofMessage? (inserted name type level).message = some (.inserted name type level) := by
  have hmessage : (inserted name type level).message =
      "Inserted '" ++ name ++ "' (" ++ type.name ++ ") into scope level " ++ level.repr := rfl
  have htext : (inserted name type level).message.toList =
      'I' :: ("nserted '".toList ++ name.toList ++ '\'' :: facts type level) := by
    simp [hmessage, facts]
  -- The last quote of the message is the one that ends the name.
  have hname :
      String.ofList (("nserted '".toList ++ name.toList).drop "nserted '".length) = name := by
    rw [← String.length_toList, List.drop_left, String.ofList_toList]
  simp only [ofMessage?, htext, cutLast_append (quote_notMem_facts type level), find?_type_facts,
    numbers_facts, hname]

/-! ### Other messages -/

theorem ofMessage?_started : ofMessage? started.message = none := rfl

theorem ofMessage?_restarted : ofMessage? restarted.message = none := rfl

end Event

end Frontend
