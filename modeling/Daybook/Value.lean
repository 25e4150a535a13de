import Daybook.Decimal.Shortest
import Daybook.Text.Quoted

/-!
Contract: the values that settings, records and calendar choices are given as.

Owns:
- the type `Value` and its ordered records;
- look-up, update and merging of records;
- which values count as given, the names of their types, and their text in messages;
- the whole numbers in a value.

Does not own: which values a particular setting accepts.
-/

namespace Daybook

/-- A value of a settings file or host record. -/
inductive Value where
  | null
  | bool (value : Bool)
  | int (value : Int)
  | real (value : Binary64)
  | text (value : Text)
  | list (items : List Value)
  | record (fields : List (Text × Value))
  deriving Repr

/-- A record: named values in the order in which their names first came up. -/
abbrev Record := List (Text × Value)

namespace Value

/-- Whether a value counts as given: it is not null, false, zero or empty. -/
def isGiven : Value → Bool
  | null => false
  | bool value => value
  | int value => value != 0
  | real value => !value.isZero
  | text value => !value.isEmpty
  | list items => !items.isEmpty
  | record fields => !fields.isEmpty

/-- The name that messages give to the type of a value. -/
def typeName : Value → Text
  | null => "NoneType".toList
  | bool _ => "bool".toList
  | int _ => "int".toList
  | real _ => "float".toList
  | text _ => "str".toList
  | list _ => "list".toList
  | record _ => "dict".toList

mutual

/-- The text of a value in a message: texts are quoted, lists stand in square brackets and records
in braces. -/
def shown : Value → Text
  | null => "None".toList
  | bool true => "True".toList
  | bool false => "False".toList
  | int value => Text.ofInt value
  | real value => value.toText
  | text value => Text.quoted value
  | list items => '[' :: shownItems items ++ [']']
  | record fields => '\x7b' :: shownFields fields ++ ['\x7d']

/-- The items of a list, separated by commas. -/
def shownItems : List Value → Text
  | [] => []
  | [item] => shown item
  | item :: next :: rest => shown item ++ ", ".toList ++ shownItems (next :: rest)

/-- The fields of a record, each a quoted name and its value, separated by commas. -/
def shownFields : List (Text × Value) → Text
  | [] => []
  | [(name, value)] => Text.quoted name ++ ": ".toList ++ shown value
  | (name, value) :: next :: rest =>
    Text.quoted name ++ ": ".toList ++ shown value ++ ", ".toList ++ shownFields (next :: rest)

end

mutual

/-- The whole numbers in a value, in the order in which its text shows them. -/
def numbers : Value → List Int
  | int value => [value]
  | list items => numbersOfItems items
  | record fields => numbersOfFields fields
  | _ => []

def numbersOfItems : List Value → List Int
  | [] => []
  | item :: rest => numbers item ++ numbersOfItems rest

def numbersOfFields : List (Text × Value) → List Int
  | [] => []
  | (_, value) :: rest => numbers value ++ numbersOfFields rest

end

end Value

namespace Record

def get? (fields : Record) (name : Text) : Option Value :=
  List.lookup name fields

/-- Puts a value under a name; a name that is there already keeps its place. -/
def set (fields : Record) (name : Text) (value : Value) : Record :=
  match fields with
  | [] => [(name, value)]
  | (known, old) :: rest =>
    if known = name then (name, value) :: rest else (known, old) :: set rest name value

/-- Puts all fields of the second record into the first, in their order. -/
def merge (fields : Record) (newer : List (Text × Value)) : Record :=
  newer.foldl (fun record field => set record field.1 field.2) fields

/-- The record of a list of pairs, where the last value given under a name counts. -/
def ofPairs (pairs : List (Text × Value)) : Record :=
  merge [] pairs

/-- The names of a record, in order. -/
def names (fields : Record) : List Text :=
  fields.map Prod.fst

theorem get?_set_self
    (fields : Record)
    (name : Text)
    (value : Value) :
    get? (set fields name value) name = some value := by
  induction fields with
  | nil => simp [set, get?]
  | cons field rest inductionHypothesis =>
    obtain ⟨known, old⟩ := field
    by_cases same : known = name
    · simp [set, get?, same]
    · have different : (name == known) = false := by simpa using Ne.symm same
      simpa [set, get?, same, List.lookup_cons, different] using inductionHypothesis

theorem get?_set_of_ne
    (fields : Record)
    {name other : Text}
    (value : Value)
    (different : other ≠ name) :
    get? (set fields name value) other = get? fields other := by
  induction fields with
  | nil =>
    have unequal : (other == name) = false := by simpa using different
    simp [set, get?, List.lookup_cons, unequal]
  | cons field rest inductionHypothesis =>
    obtain ⟨known, old⟩ := field
    by_cases same : known = name
    · have unequal : (other == name) = false := by simpa using different
      simp [set, get?, same, List.lookup_cons, unequal]
    · simp only [set, same, if_false, get?, List.lookup_cons]
      cases other == known with
      | true => rfl
      | false => exact inductionHypothesis

end Record

end Daybook
