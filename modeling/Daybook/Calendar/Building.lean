import Daybook.Calendar.Date

/-!
Contract: dates built from their parts, or from a year and a week.

Owns:
- dates from year, month and day in either calendar;
- dates from a year and a week, starting from a given day.

Does not own: the clock, or the choice between the two ways.
-/

namespace Daybook

namespace Gregorian

/-- Whether a number is one that the calendar's arithmetic takes at all: thirty-two bits with a
sign. -/
def inWord (number : Int) : Bool :=
  -2147483648 ≤ number && number < 2147483648

/-- The day of a date whose month may be missing.  The three numbers are looked at one by one before
the date as a whole is. -/
def build (year : Int) (month : Option Int) (day : Int) : Except Fault Day :=
  if ¬ inWord year then .error .beyondRange
  else
    match month with
    | none => .error .gregorianMonthAbsent
    | some month =>
      if ¬ inWord month ∨ ¬ inWord day then .error .beyondRange
      else
        match toDay year month day with
        | .ok found => .ok found
        | .error flaw => .error (.gregorianDate year month day flaw)

/-- The same day in another year, where year zero stands for the year that it has. -/
def inYear (day : Day) (year : Int) : Except Fault Day :=
  if year = 0 then .ok day
  else if ¬ inWord year then .error .beyondRange
  else
    match moveToYear day year with
    | .ok moved => .ok moved
    | .error _ => .error (.gregorianYear year)

end Gregorian

namespace Solar

/-- The day of a date whose month may be missing. -/
def build (year : Int) (month : Option Int) (day : Int) : Except Fault Day :=
  match month with
  | none => .error .solarMonthAbsent
  | some month =>
    match toDay year month day with
    | .ok found => .ok found
    | .error flaw => Fault.raise (.solarDate year month day flaw)

/-- The same day in another year; a day that the month has not in that year becomes its last. -/
def inYear (day : Day) (year : Int) : Except Fault Day := do
  let date ← Date.fields ⟨.solar, day⟩
  let length ← (monthLength year date.month).mapError Fault.solarFlaw
  build year (some date.month) (min date.day length)

end Solar

namespace Date

def ofParts
    (system : CalendarSystem)
    (year : Int)
    (month : Option Int)
    (day : Int) :
    Except Fault Date :=
  match system with
  | .solar => do pure ⟨.solar, ← Solar.build year month day⟩
  | .gregorian => do pure ⟨.gregorian, ← Gregorian.build year month day⟩

/-- Moves a date by whole weeks to the week of the given number. -/
def toWeek (date : Date) (week : Int) : Except Fault Date := do
  let current ← date.week
  match date.day.shift? (7 * (week - current)) with
  | some day => pure ⟨date.system, day⟩
  | none => .error .beyondRange

/-- Moves a day to the given year, and then to the week of the given number in the year where it has
come to lie. -/
def ofWeek
    (system : CalendarSystem)
    (today : Day)
    (year week : Int) :
    Except Fault Date :=
  match system with
  | .solar => do toWeek ⟨.solar, ← Solar.inYear today year⟩ week
  | .gregorian => do toWeek ⟨.gregorian, ← Gregorian.inYear today year⟩ week

end Date

end Daybook
