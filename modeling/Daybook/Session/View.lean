import Daybook.CommandLine.Running
import Daybook.Pattern.Rendering
import Daybook.Settings.Checking

/-!
Contract: what an answer shows of dates and settings.

Owns:
- the views of a date and of settings, with the parts that may fail on their own;
- the short texts of a day and of a date;
- the type `Answer`.

Does not own: which request gets which answer.
-/

namespace Daybook

namespace Day

/-- The Gregorian date of a day: year, month and day of four, two and two digits. -/
def stamp (day : Day) : Text :=
  let fields := Gregorian.fields day
  Text.padded 4 fields.year ++ '-' :: Text.padded 2 fields.month ++
    '-' :: Text.padded 2 fields.day

end Day

namespace Date

/-- The name of dates of a calendar system in their short texts. -/
def label : CalendarSystem → Text
  | .solar => "SolarDate".toList
  | .gregorian => "GregorianDate".toList

/-- The short text of a date: its calendar and its three numbers. -/
def shown (date : Date) : Except Fault Text := do
  let fields ← date.fields
  pure (label date.system ++ '(' :: Text.ofNat fields.year ++ ", ".toList ++
    Text.ofNat fields.month ++ ", ".toList ++ Text.ofNat fields.day ++ [')'])

end Date

/-- What an answer shows of a date.  Each part stands for itself: where one fails, the others are
still there. -/
structure DateView where
  system : CalendarSystem
  stamp : Text
  year : Except Fault Nat
  month : Except Fault Nat
  day : Except Fault Nat
  week : Except Fault Nat
  quarter : Except Fault Nat
  monthName : Except Fault Text
  shown : Except Fault Text
  shownInGregorian : Except Fault Text
  weekday : Option Nat
  texts : List (Except Fault Text)

namespace Date

/-- The view of a date, with its texts in the given prepared patterns.  Only solar dates show the
day of the week. -/
def view (locale : Locale) (patterns : List Text) (date : Date) : DateView where
  system := date.system
  stamp := date.day.stamp
  year := date.fields.map DateFields.year
  month := date.fields.map DateFields.month
  day := date.fields.map DateFields.day
  week := date.week
  quarter := date.quarter
  monthName := date.monthName locale
  shown := date.shown
  shownInGregorian := date.inGregorian.shown
  weekday :=
    match date.system with
    | .solar => some date.day.weekday
    | .gregorian => none
  texts := patterns.map (date.render locale)

end Date

/-- What an answer shows of settings: all values, the changes, and the calendar system, which may be
one that there is not. -/
structure SettingsView where
  values : Record
  changes : Record
  shown : Text
  system : Except Fault CalendarSystem

namespace Settings

def view (settings : Settings) : Except Fault SettingsView := do
  pure ⟨← settings.listing, ← settings.changesRecord, ← settings.shown, settings.system⟩

end Settings

/-- The answers to requests. -/
inductive Answer where
  | nothing
  | truth (value : Bool)
  | number (value : Int)
  | text (value : Text)
  | texts (values : List Text)
  | optionalText (value : Option Text)
  | parts (parts : Option DateParts)
  | date (view : DateView)
  | sameness (same : Bool)
  | calendar (system : CalendarSystem) (today : Day)
  | locale (locale : Locale)
  /-- The forms of dates with their ranks. -/
  | forms (forms : List (Text × Nat))
  /-- The path of a note, its folder, the date that it shows, and whether it is recognised. -/
  | roundTrip (path folder : Text) (shows : Option DateParts) (recognised : Bool)
  | settings (view : SettingsView)
  | report (report : CommandLine.Report)

end Daybook
