import Daybook.Calendar.Day
import Daybook.Calendar.YearPlan

/-!
Contract: the Gregorian calendar, extended to all years from 1 to 9999.

Owns:
- leap years, month lengths, and the first day of a year;
- the day of a date, with the part at fault if there is none;
- the date of a day, and its week.

Does not own: the names of months, or how a fault is reported.
-/

namespace Daybook.Gregorian

/-- Every fourth year is a leap year, of the full centuries only every fourth one. -/
def isLeapYear (year : Nat) : Bool :=
  year % 4 == 0 && (year % 100 != 0 || year % 400 == 0)

/-- The lengths of the twelve months of a year. -/
def monthLengths (year : Nat) : List Nat :=
  [31, if isLeapYear year then 29 else 28, 31, 30, 31, 30, 31, 31, 30, 31, 30, 31]

/-- The number of days before the given year. -/
def daysBeforeYear (year : Nat) : Nat :=
  let past := year - 1
  365 * past + past / 4 - past / 100 + past / 400

def dayNumber (date : DateFields) : Nat :=
  daysBeforeYear date.year + YearPlan.daysBefore (monthLengths date.year) date.month + date.day

/-- Which part of a date the calendar does not have, looked for from the year down. -/
def flaw? (year month day : Int) : Option DateFlaw :=
  if ¬ (1 ≤ year ∧ year ≤ 9999) then some .year
  else if ¬ (1 ≤ month ∧ month ≤ 12) then some .month
  else if ¬ (1 ≤ day ∧ day ≤ YearPlan.lengthOf (monthLengths year.toNat) month.toNat) then some .day
  else none

def toDay (year month day : Int) : Except DateFlaw Day :=
  match flaw? year month day with
  | some flaw => .error flaw
  | none =>
    match Day.ofNumber? (dayNumber ⟨year.toNat, month.toNat, day.toNat⟩) with
    | some found => .ok found
    | none => .error .year

/-- The year of the day at a position, which is counted from zero, and the position in that year.
Four hundred years, a hundred, four and one are split off in turn; the last century of four hundred
years and the last year of four take in the leap day at the end. -/
def splitYears (position : Nat) : Nat × Nat :=
  let afterFourCenturies := position % 146097
  let century := min (afterFourCenturies / 36524) 3
  let afterCentury := afterFourCenturies - century * 36524
  let afterFourYears := afterCentury % 1461
  let year := min (afterFourYears / 365) 3
  (400 * (position / 146097) + 100 * century + 4 * (afterCentury / 1461) + year + 1,
    afterFourYears - year * 365)

def fields (day : Day) : DateFields :=
  let (year, position) := splitYears (day.number - 1)
  let (month, dayOfMonth) := YearPlan.locate (monthLengths year) 1 position
  ⟨year, month, dayOfMonth⟩

/-- The day of the week, counted from Monday as zero. -/
def weekdayFromMonday (day : Day) : Nat :=
  (day.number - 1) % 7

/-- The number of a day's week: weeks begin on Monday, and the week belongs to the year of its
Thursday. -/
def week (day : Day) : Nat :=
  let thursday := day.number - 1 - weekdayFromMonday day + 3
  (splitYears thursday).2 / 7 + 1

/-- The same day in another year, the twenty-ninth of February moved to the twenty-eighth where the
year has none. -/
def moveToYear (day : Day) (year : Int) : Except DateFlaw Day :=
  let date := fields day
  let length := YearPlan.lengthOf (monthLengths year.toNat) date.month
  toDay year date.month (min date.day length)

end Daybook.Gregorian
