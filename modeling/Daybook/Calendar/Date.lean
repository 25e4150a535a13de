import Daybook.Calendar.Gregorian
import Daybook.Calendar.Solar
import Daybook.Fault

/-!
Contract: a day seen through one of the calendars.

Owns:
- the type `Date` and its year, month, day, week, quarter and month name;
- the one failure of those: a day whose solar year is not in the calendar.

Does not own: how dates are built or written.
-/

namespace Daybook

/-- A day together with the calendar it is read in. -/
structure Date where
  system : CalendarSystem
  day : Day
  deriving DecidableEq, Repr

namespace Date

def inGregorian (date : Date) : Date :=
  ⟨.gregorian, date.day⟩

def fields (date : Date) : Except Fault DateFields :=
  match date.system with
  | .gregorian => .ok (Gregorian.fields date.day)
  | .solar =>
    match Solar.fields? date.day with
    | some found => .ok found
    | none => .error (.solarFlaw .year)

/-- The number of a date's week in the year of its calendar. -/
def week (date : Date) : Except Fault Nat :=
  match date.system with
  | .gregorian => .ok (Gregorian.week date.day)
  | .solar => do pure (Solar.week (← date.fields))

/-- The quarter of the year, from one to four. -/
def quarter (date : Date) : Except Fault Nat := do
  pure (((← date.fields).month - 1) / 3 + 1)

/-- The name of the month; the locale names the solar months only. -/
def monthName (locale : Locale) (date : Date) : Except Fault Text := do
  let month := (← date.fields).month
  let names :=
    match date.system with
    | .gregorian => gregorianMonthNames
    | .solar => locale.monthNames
  pure (names.getD (month - 1) [])

/-- A text of digits as the date's calendar writes it; the locale applies to solar dates only. -/
def digits (locale : Locale) (date : Date) (text : Text) : Text :=
  match date.system with
  | .gregorian => text
  | .solar => locale.digits text

end Date

end Daybook
