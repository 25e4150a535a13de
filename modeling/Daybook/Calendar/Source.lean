import Daybook.Calendar.Building
import Daybook.Consultation
import Daybook.DateParts
import Daybook.Pattern.Rendering

/-!
Contract: calendars as sources of dates for notes.

Owns:
- the type `Calendar`: a system with its own clock or the common one, or a calendar that only
  repeats what it is asked;
- what a calendar gives for a date or a week, and its text in a pattern;
- the date that the parts of a note stand for.

Does not own: the arithmetic of the systems.
-/

namespace Daybook

/-- A source of dates. -/
inductive Calendar where
  /-- A calendar of a system, with the day it takes for today, or the day of the clock. -/
  | ofSystem (system : CalendarSystem) (today : Option Day)
  /-- A calendar that repeats the numbers it is given. -/
  | echo
  deriving DecidableEq, Repr

/-- What a calendar gives: a date, or the numbers it was asked for. -/
inductive Moment where
  | date (date : Date)
  | echo (numbers : Text)
  deriving DecidableEq, Repr

namespace Moment

/-- The text of a moment in a prepared pattern. -/
def render (pattern : Text) : Moment → Consultation Text
  | date found => do
    let locale ← Consultation.localeFor found.system
    Consultation.ofExcept (found.render locale pattern)
  | echo numbers => pure (numbers ++ '|' :: pattern)

end Moment

namespace Calendar

/-- The text of a number that may be missing. -/
def shownNumber (number : Option Int) : Text :=
  (DateParts.valueOf number).shown

/-- The day that a calendar takes for today. -/
def clock (today : Option Day) : Consultation Day :=
  match today with
  | some day => pure day
  | none => Consultation.today

/-- The date with the given year, month and day.  A solar calendar needs the locale from the
start. -/
def atDate (calendar : Calendar) (year : Int) (month : Option Int) (day : Int) :
    Consultation Moment :=
  match calendar with
  | ofSystem system _ => do
    let _ ← Consultation.localeFor system
    let found ← Consultation.ofExcept (Date.ofParts system year month day)
    pure (.date found)
  | echo => do
    Consultation.ofExcept (Fault.writing (year :: month.toList ++ [day]))
    pure (.echo (Text.ofInt year ++ '/' :: shownNumber month ++ '/' :: Text.ofInt day))

/-- The date of today moved to the given week of the given year. -/
def atWeek (calendar : Calendar) (year week : Int) : Consultation Moment :=
  match calendar with
  | ofSystem system today => do
    let _ ← Consultation.localeFor system
    let day ← clock today
    let found ← Consultation.ofExcept (Date.ofWeek system day year week)
    pure (.date found)
  | echo => do
    Consultation.ofExcept (Fault.writing [year, week])
    pure (.echo (Text.ofInt year ++ 'W' :: Text.ofInt week))

def shared (system : CalendarSystem) : Consultation Calendar := do
  Consultation.noteCalendar system
  pure (ofSystem system none)

/-- The given calendar, or the shared one of a system. -/
def orShared (system : CalendarSystem) : Option Calendar → Consultation Calendar
  | some calendar => pure calendar
  | none => shared system

/-- The month of parts without a day or a week: missing and zero are the first. -/
def monthOrFirst (month : Option Int) : Int :=
  match month with
  | none => 1
  | some 0 => 1
  | some number => number

/-- The date that parts stand for; a day counts before a week, and everything else stands for the
first day of the month. -/
def moment (calendar : Calendar) (parts : DateParts) : Consultation Moment :=
  match parts.day, parts.week with
  | some day, _ => calendar.atDate parts.year parts.month day
  | none, some week => calendar.atWeek parts.year week
  | none, none => calendar.atDate parts.year (some (monthOrFirst parts.month)) 1

end Calendar

end Daybook
