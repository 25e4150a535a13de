import Daybook.Path.Writing
import Daybook.Settings.Checking

/-!
Contract: how a request names the things that it works with.

Owns:
- days named by their Gregorian date;
- calendars, dates and settings as a request describes them;
- the store of settings that were given a name;
- what each of those descriptions stands for, or why it stands for nothing.

Does not own: what is asked about the things named.
-/

namespace Daybook

/-- A day named by its Gregorian date. -/
structure GivenDay where
  year : Int
  month : Int
  day : Int
  deriving DecidableEq, Repr

namespace GivenDay

/-- The day that is named, if there is one. -/
def resolve (given : GivenDay) : Except Fault Day :=
  if Gregorian.inWord given.year && Gregorian.inWord given.month && Gregorian.inWord given.day then
    (Gregorian.toDay given.year given.month given.day).mapError (Fault.gregorianFlaw given.year)
  else
    .error .beyondRange

end GivenDay

/-- A calendar as a request describes it. -/
inductive CalendarChoice where
  | ofSystem (system : CalendarSystem) (today : Option GivenDay)
  | shared (system : Value)
  /-- The calendar that repeats the numbers it is given. -/
  | echo
  deriving Repr

namespace CalendarChoice

def resolve : CalendarChoice → Consultation Calendar
  | ofSystem system none => pure (.ofSystem system none)
  | ofSystem system (some given) => do
    pure (.ofSystem system (some (← Consultation.ofExcept given.resolve)))
  | shared system => do Calendar.shared (← Consultation.ofExcept (Path.chooseSystem system))
  | echo => pure .echo

def resolve? : Option CalendarChoice → Consultation (Option Calendar)
  | some choice => do pure (some (← choice.resolve))
  | none => pure none

end CalendarChoice

/-- A date as a request describes it. -/
inductive DateChoice where
  | ofParts (calendar : CalendarChoice) (year : Int) (month : Option Int) (day : Int)
  | ofWeek (calendar : CalendarChoice) (year week : Int)
  | ofDay (system : CalendarSystem) (day : GivenDay)
  deriving Repr

namespace DateChoice

/-- The date among moments. -/
def dateOf : Moment → Except Fault Date
  | .date found => .ok found
  | .echo _ => .error .notDate

def resolve : DateChoice → Consultation Date
  | ofParts calendar year month day => do
    let moment ← (← calendar.resolve).atDate year month day
    Consultation.ofExcept (dateOf moment)
  | ofWeek calendar year week => do
    let moment ← (← calendar.resolve).atWeek year week
    Consultation.ofExcept (dateOf moment)
  | ofDay system day => do pure ⟨system, ← Consultation.ofExcept day.resolve⟩

end DateChoice

/-- Settings by the names under which they were stored, the latest first. -/
abbrev Store := List (Text × Settings)

namespace Store

/-- The settings that were stored last under a name. -/
def find (store : Store) (name : Text) : Except Fault Settings :=
  match List.lookup name store with
  | some settings => .ok settings
  | none => .error (.nameAbsent name)

/-- The settings of that name, or the standard ones if no name is given. -/
def findOrStandard (store : Store) : Option Text → Except Fault Settings
  | some name => store.find name
  | none => .ok .standard

end Store

/-- Settings as a request describes them. -/
inductive SettingsChoice where
  /-- A value that stands for settings, or for changes to them. -/
  | value (value : Value)
  | made (overrides : Record)
  | stored (name : Text)
  deriving Repr

namespace SettingsChoice

def resolve (store : Store) : SettingsChoice → Except Fault Settings.Given
  | value given => .ok (.value given)
  | made overrides => do pure (.settings (← Settings.ofRecord overrides))
  | stored name => do pure (.settings (← store.find name))

/-- The valid settings that an operation works with. -/
def accept (store : Store) (choice : SettingsChoice) : Except Fault Settings := do
  Settings.accept (← choice.resolve store)

end SettingsChoice

end Daybook
