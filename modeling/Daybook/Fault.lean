import Daybook.Calendar.Locale
import Daybook.Calendar.System
import Daybook.Calendar.YearPlan

/-!
Contract: everything that can go wrong, and how it is reported.

Owns:
- the type `Fault`, one constructor for each cause;
- the class of a fault and the one function that words it;
- the numbers in a wording, and the failure where one of them is too long to be written.

Does not own: the conditions under which a fault arises.
-/

namespace Daybook

/-- The classes of faults that callers tell apart. -/
inductive FaultClass where
  /-- A value is of the right type but not acceptable. -/
  | value
  /-- A calendar has no such date. -/
  | date
  /-- A setting is unknown, or its value is not one it takes. -/
  | setting
  /-- A record lacks a name that has to be there. -/
  | name
  /-- A value is of the wrong type. -/
  | type
  /-- A number or a day is beyond all that can be represented. -/
  | range
  /-- A thing was asked for a part that it does not have, or that cannot be replaced. -/
  | part
  deriving DecidableEq, Repr

/-- The causes of failure. -/
inductive Fault where
  | unknownSystem (given : Value)
  | unknownDialect (given : Value)
  /-- A field that the record of a locale cannot have. -/
  | unknownLocaleField (name : Text)
  | unknownPeriod (given : Value)
  | quarterlyNotesOff
  | solarDate (year month day : Int) (flaw : DateFlaw)
  | gregorianDate (year month day : Int) (flaw : DateFlaw)
  /-- A day was to be moved to a year that the Gregorian calendar does not have. -/
  | gregorianYear (year : Int)
  /-- A solar date, or the solar date of a day, does not exist. -/
  | solarFlaw (flaw : DateFlaw)
  /-- A day was given by a Gregorian date that does not exist. -/
  | gregorianFlaw (year : Int) (flaw : DateFlaw)
  | solarMonthAbsent
  | gregorianMonthAbsent
  /-- A number or a day lies beyond the range of the calendar's arithmetic. -/
  | beyondRange
  | textAbsent
  /-- A text is not a whole number, or has too many digits. -/
  | numeral (source : Text) (flaw : Text.NumeralFlaw)
  /-- A number has too many digits to be written. -/
  | unwritable
  /-- A value with no number in it was to be a whole number. -/
  | undefinedNumber
  /-- A value of the named type cannot be a whole number. -/
  | notNumeric (typeName : Text)
  /-- A value that was to be a record of the parts of a date has no named fields. -/
  | withoutFields (given : Value)
  | nameAbsent (name : Text)
  | unknownSetting (name : Text)
  /-- A setting was given a value of another type than its own. -/
  | settingType (name : Text) (expected actual : Text)
  /-- The calendar setting was given a text that names no system. -/
  | settingSystem (name : Text) (given : Text)
  /-- The dialect setting was given a text that names no dialect. -/
  | settingDialect (name : Text) (given : Text)
  /-- Settings were given as something that is neither a record nor settings. -/
  | settingsUnreadable
  /-- Settings were given where a record was needed. -/
  | settingsNotRecord
  /-- A value of the named type was given where a record was needed. -/
  | notIterable (typeName : Text)
  /-- An item of a list that stands for a record is not a pair; its place is counted from zero. -/
  | notSequence (place : Nat)
  /-- An item of a list that stands for a record has another length than two. -/
  | notPair (place length : Nat)
  /-- A value of the named type cannot be the name of a field. -/
  | unusableName (typeName : Text)
  /-- The name of a setting was given as a value of the named type. -/
  | settingNameType (typeName : Text)
  /-- A setting has a name that settings keep for themselves and do not give away. -/
  | reservedName
  /-- The class of the settings was to become a value of the named type. -/
  | classReplaced (typeName : Text)
  /-- The members of the settings were to become a value of the named type. -/
  | membersReplaced (typeName : Text)
  /-- An operation of the settings was replaced by a value of the named type. -/
  | operationReplaced (typeName : Text)
  /-- The settings were to be replaced by a single one of a name that the replacement keeps for
  itself. -/
  | replacementName (name : Text)
  | notSettings
  /-- A date was needed, and a calendar that only repeats its numbers gives none. -/
  | notDate
  deriving Repr

namespace DateFlaw

def solarMessage : DateFlaw → Text
  | year => "year is out of range".toList
  | month => "month must be in 1..12".toList
  | day => "day is out of range for month".toList

/-- The wording of a flaw in a Gregorian date of the given year. -/
def gregorianMessage (given : Int) : DateFlaw → Text
  | year => "year ".toList ++ Text.ofInt given ++ " is out of range".toList
  | month => "month must be in 1..12".toList
  | day => "day is out of range for month".toList

end DateFlaw

namespace Fault

def category : Fault → FaultClass
  | unknownSystem _ | unknownDialect _ | unknownPeriod _ | quarterlyNotesOff => .value
  | solarFlaw _ | gregorianFlaw _ _ | numeral _ _ | unwritable => .value
  | undefinedNumber | notPair _ _ => .value
  | solarDate _ _ _ _ | gregorianDate _ _ _ _ | gregorianYear _ => .date
  | unknownSetting _ | settingType _ _ _ | settingSystem _ _ | settingDialect _ _ => .setting
  | nameAbsent _ => .name
  | solarMonthAbsent | gregorianMonthAbsent | notNumeric _ => .type
  | settingsUnreadable | settingsNotRecord | notIterable _ | notSequence _ => .type
  | unusableName _ | settingNameType _ | classReplaced _ | membersReplaced _ => .type
  | operationReplaced _ | replacementName _ | unknownLocaleField _ | withoutFields _ => .type
  | beyondRange => .range
  | textAbsent | reservedName | notSettings | notDate => .part

/-- The three numbers of a date as they stand in a message. -/
def slashed (year month day : Int) : Text :=
  Text.ofInt year ++ '/' :: Text.ofInt month ++ '/' :: Text.ofInt day

/-- The most characters that a message shows of a text that is not a number. -/
def shownNumeralLength : Nat := 200

/-- The wording of a fault, where it has one and its numbers can be written. -/
def message : Fault → Option Text
  | unknownSystem given => some ("Unknown calendar kind: ".toList ++ given.shown)
  | unknownDialect given =>
    some ("Unknown dialect ".toList ++ given.shown ++ ", expected one of ".toList ++
      Dialect.choices)
  | unknownLocaleField name =>
    some ("load_persian() got an unexpected keyword argument '".toList ++ name ++ "'".toList)
  | unknownPeriod given => some (given.shown ++ " is not a valid NoteType".toList)
  | quarterlyNotesOff => some "Quarterly notes are disabled in settings".toList
  | solarDate year month day flaw =>
    some ("Invalid solar date ".toList ++ slashed year month day ++ ": ".toList ++
      flaw.solarMessage)
  | gregorianDate year month day flaw =>
    some ("Invalid Gregorian date ".toList ++ slashed year month day ++ ": ".toList ++
      flaw.gregorianMessage year)
  | gregorianYear year =>
    some ("Invalid Gregorian year ".toList ++ Text.ofInt year ++ ": ".toList ++
      DateFlaw.year.gregorianMessage year)
  | solarFlaw flaw => some flaw.solarMessage
  | gregorianFlaw year flaw => some (flaw.gregorianMessage year)
  | solarMonthAbsent => some "an integer is required<class 'int'>".toList
  | gregorianMonthAbsent => some "'NoneType' object cannot be interpreted as an integer".toList
  | beyondRange => none
  | textAbsent => none
  | numeral source .malformed =>
    some ("invalid literal for int() with base 10: ".toList ++
      (Text.quoted source).take shownNumeralLength)
  | numeral _ (.tooLong digits) =>
    some ("Exceeds the limit (4300 digits) for integer string conversion: value has ".toList ++
      Text.ofNat digits ++
      " digits; use sys.set_int_max_str_digits() to increase the limit".toList)
  | unwritable =>
    some ("Exceeds the limit (4300 digits) for integer string conversion; ".toList ++
      "use sys.set_int_max_str_digits() to increase the limit".toList)
  | undefinedNumber => some "cannot convert float NaN to integer".toList
  | notNumeric typeName =>
    some ("int() argument must be a string, a bytes-like object or a real number, not '".toList ++
      typeName ++ "'".toList)
  | withoutFields (.list _) => some "list indices must be integers or slices, not str".toList
  | withoutFields (.text _) => some "string indices must be integers, not 'str'".toList
  | withoutFields given =>
    some ('\'' :: given.typeName ++ "' object is not subscriptable".toList)
  | nameAbsent name => some (Text.quoted name)
  | unknownSetting name => some ('"' :: name ++ "\" is not a valid setting".toList)
  | settingType name expected actual =>
    some ('"' :: name ++ "\" must be \"".toList ++ expected ++ "\", not \"".toList ++ actual ++
      "\".".toList)
  | settingSystem name given =>
    some ('"' :: given ++ "\" is not a valid value for \"".toList ++ name ++
      "\", it should be \"solar\" or \"gregorian\"".toList)
  | settingDialect name given =>
    some ('"' :: given ++ "\" is not a valid value for \"".toList ++ name ++
      "\", it should be one of: ".toList ++ Dialect.choices)
  | settingsUnreadable =>
    some "settings can only be either dict or instance of Settings class".toList
  | settingsNotRecord => some "'Settings' object is not iterable".toList
  | notIterable typeName => some ('\'' :: typeName ++ "' object is not iterable".toList)
  | notSequence place =>
    some ("cannot convert dictionary update sequence element #".toList ++ Text.ofNat place ++
      " to a sequence".toList)
  | notPair place length =>
    some ("dictionary update sequence element #".toList ++ Text.ofNat place ++
      " has length ".toList ++ Text.ofNat length ++ "; 2 is required".toList)
  | unusableName typeName => some ("unhashable type: '".toList ++ typeName ++ "'".toList)
  | settingNameType typeName =>
    some ("attribute name must be string, not '".toList ++ typeName ++ "'".toList)
  | reservedName => none
  | classReplaced typeName =>
    some ("__class__ must be set to a class, not '".toList ++ typeName ++ "' object".toList)
  | membersReplaced typeName =>
    some ("__dict__ must be set to a dictionary, not a '".toList ++ typeName ++ "'".toList)
  | operationReplaced typeName => some ('\'' :: typeName ++ "' object is not callable".toList)
  | replacementName name =>
    some ("Settings.replace() got multiple values for argument '".toList ++ name ++ "'".toList)
  | notSettings => none
  | notDate => none

/-- The whole numbers in the wording of a fault that callers can choose; all others are short. -/
def numbers : Fault → List Int
  | unknownSystem given | unknownDialect given | unknownPeriod given => given.numbers
  | solarDate year month day _ | gregorianDate year month day _ => [year, month, day]
  | gregorianYear year | gregorianFlaw year _ => [year]
  | _ => []

/-- Work that has to write some numbers. -/
def writing (numbers : List Int) : Except Fault Unit :=
  if numbers.all Text.isWritable then .ok () else .error .unwritable

/-- Fails with a fault.  A fault is worded where it arises, so that its numbers have to be written
there. -/
def raise {α : Type} (fault : Fault) : Except Fault α := do
  writing fault.numbers
  .error fault

end Fault

end Daybook
