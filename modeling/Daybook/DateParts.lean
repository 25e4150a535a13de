import Daybook.Fault
import Daybook.Text.Numeral

/-!
Contract: the parts of a date that a note is about.

Owns:
- the type `DateParts`, and how fine a date its parts give;
- the pattern that suits such parts;
- reading parts from a record of values and listing them as one.

Does not own: the calendar that the parts belong to.
-/

namespace Daybook

/-- The year and whatever else is known of the date of a note.  A month of one may also mean that
only the year is known. -/
structure DateParts where
  year : Int
  month : Option Int
  day : Option Int
  week : Option Int
  quarter : Option Int
  deriving DecidableEq, Repr

/-- How fine the date of a note is. -/
inductive Grain where
  | day
  | week
  | quarter
  | month
  | year
  deriving DecidableEq, Repr

namespace Grain

def name : Grain → Text
  | day => "day".toList
  | week => "week".toList
  | quarter => "quarter".toList
  | month => "month".toList
  | year => "year".toList

end Grain

namespace DateParts

/-- All numbers of the parts, from the year on. -/
def numbers (parts : DateParts) : List Int :=
  parts.year :: (parts.month.toList ++ parts.day.toList ++ parts.week.toList ++
    parts.quarter.toList)

/-- Whether the parts name a month other than the first, which stands for the whole year. -/
def namesMonth (parts : DateParts) : Bool :=
  parts.month.isSome && parts.month != some 1

/-- The grain of the parts; a day counts before a week, and a week before a quarter. -/
def grain (parts : DateParts) : Grain :=
  if parts.day.isSome then .day
  else if parts.week.isSome then .week
  else if parts.quarter.isSome then .quarter
  else if parts.namesMonth then .month
  else .year

/-- The pattern for parts where none is given. -/
def defaultPattern (parts : DateParts) : Text :=
  if parts.day.isSome then "YYYY-MM-DD".toList
  else if parts.week.isSome then "YYYY-[W]WW".toList
  else if parts.quarter.isSome then "YYYY-[Q]Q".toList
  else if parts.namesMonth then "YYYY-MM".toList
  else "YYYY".toList

def yearName : Text := "year".toList

def monthName : Text := "month".toList

def dayName : Text := "day".toList

def weekName : Text := "week".toList

def quarterName : Text := "quarter".toList

/-- The whole number in a value: truth values count as zero and one, fractions are cut off, and
texts are read. -/
def wholeNumber : Value → Except Fault Int
  | .bool value => .ok (if value then 1 else 0)
  | .int value => .ok value
  | .real value =>
    if value.isUndefined then .error .undefinedNumber
    else if value.isInfinite then .error .beyondRange
    else .ok value.truncate
  | .text value =>
    match Text.readInt value with
    | .ok number => .ok number
    | .error flaw => .error (.numeral value flaw)
  | value => .error (.notNumeric value.typeName)

/-- The number in a field that may be left out, be null, or be an empty text. -/
def optionalNumber : Option Value → Except Fault (Option Int)
  | none => .ok none
  | some .null => .ok none
  | some (.text []) => .ok none
  | some value => do pure (some (← wholeNumber value))

/-- Reads parts from a record.  A month that is not given, or is zero or empty, is the first. -/
def ofRecord (record : Record) : Except Fault DateParts := do
  let year ←
    match Record.get? record yearName with
    | some value => wholeNumber value
    | none => .error (.nameAbsent yearName)
  let givenMonth := (Record.get? record monthName).getD .null
  let month ← if givenMonth.isGiven then wholeNumber givenMonth else pure 1
  let day ← optionalNumber (Record.get? record dayName)
  let week ← optionalNumber (Record.get? record weekName)
  let quarter ← optionalNumber (Record.get? record quarterName)
  pure ⟨year, some month, day, week, quarter⟩

/-- Reads parts from a value, which has to be a record. -/
def ofValue : Value → Except Fault DateParts
  | .record fields => ofRecord fields
  | given => .error (.withoutFields given)

def valueOf : Option Int → Value
  | some number => .int number
  | none => .null

/-- The record of the parts: year and month always, the others where they are known. -/
def toRecord (parts : DateParts) : Record :=
  let optional (name : Text) (part : Option Int) : Record :=
    match part with
    | some number => [(name, .int number)]
    | none => []
  [(yearName, .int parts.year), (monthName, valueOf parts.month)] ++
    optional dayName parts.day ++ optional weekName parts.week ++
    optional quarterName parts.quarter

end DateParts

end Daybook
