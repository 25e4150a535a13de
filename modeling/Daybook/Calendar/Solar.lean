import Daybook.Calendar.Day
import Daybook.Calendar.YearPlan

/-!
Contract: the solar calendar of Iran, for the years from 1 to 9377.

Owns:
- leap years by their residue, and the lengths of months;
- the first day of a year, the day of a date, and the date of a day;
- the length of a month found from the distance of two new years;
- the number of a day in its year, and of its week.

Does not own: the names of months, or how a fault is reported.
-/

namespace Daybook.Solar

def lastYear : Int := 9377

/-- The residues modulo thirty-three of the leap years. -/
def leapResidues : List Int := [1, 5, 9, 13, 17, 22, 26, 30]

/-- A leap year is known by its place in the cycle of thirty-three years. -/
def isLeapResidue (year : Int) : Bool :=
  leapResidues.contains (year % 33)

/-- The lengths of the twelve months of a year: six of thirty-one days, five of thirty, and a last
one of twenty-nine, or of thirty in a leap year. -/
def monthLengths (year : Int) : List Nat :=
  [31, 31, 31, 31, 31, 31, 30, 30, 30, 30, 30, if isLeapResidue year then 30 else 29]

/-- The number of the first day of a year.  In a cycle of thirty-three years the leap years are
every fourth from the first on, eight in all; the year 979 opens a cycle. -/
def newYear (year : Int) : Int :=
  let past := year - 979
  584102 + 365 * past + past / 33 * 8 + (past % 33 + 3) / 4

/-- Which part of a date the calendar does not have, looked for from the year down. -/
def flaw? (year month day : Int) : Option DateFlaw :=
  if ¬ (1 ≤ year ∧ year ≤ lastYear) then some .year
  else if ¬ (1 ≤ month ∧ month ≤ 12) then some .month
  else if ¬ (1 ≤ day ∧ day ≤ YearPlan.lengthOf (monthLengths year) month.toNat) then some .day
  else none

def toDay (year month day : Int) : Except DateFlaw Day :=
  match flaw? year month day with
  | some flaw => .error flaw
  | none =>
    match Day.ofNumber?
        (newYear year + YearPlan.daysBefore (monthLengths year) month.toNat + day - 1) with
    | some found => .ok found
    | none => .error .year

/-- The year of the day with the given number, and the position in that year, counted from zero.
Cycles of thirty-three years, then four years, then single years are split off; the first year of
four takes in the leap day. -/
def splitYears (number : Int) : Int × Nat :=
  let position := number - 584102
  let inCycle := (position % 12053).toNat
  let inFour := inCycle % 1461
  let year := 979 + 33 * (position / 12053) + 4 * (inCycle / 1461)
  if inFour < 366 then (year, inFour)
  else (year + ((inFour - 1) / 365 : Nat), (inFour - 1) % 365)

/-- The date of a day, if its year belongs to the calendar. -/
def fields? (day : Day) : Option DateFields :=
  let (year, position) := splitYears day.number
  if 1 ≤ year ∧ year ≤ lastYear then
    let (month, dayOfMonth) := YearPlan.locate (monthLengths year) 1 position
    some ⟨year.toNat, month, dayOfMonth⟩
  else
    none

/-- Whether a year has 366 days, found from the new year days around it; there is no answer for a
year without both. -/
def isLongYear (year : Int) : Except DateFlaw Bool := do
  let start ← toDay year 1 1
  let finish ← toDay (year + 1) 1 1
  pure (finish.number - start.number == 366)

/-- The length of a month, which for the last month is found from the length of the year. -/
def monthLength (year month : Int) : Except DateFlaw Nat :=
  if month ≤ 6 then pure 31
  else if month ≤ 11 then pure 30
  else do pure (if ← isLongYear year then 30 else 29)

/-- The number of a date in its year, counted from one. -/
def dayOfYear (month day : Int) : Int :=
  if month ≤ 7 then (month - 1) * 31 + day else 186 + (month - 7) * 30 + day

/-- The number of a date's week in its year.  Weeks begin on Saturday, and the first one holds the
first day of the year. -/
def week (date : DateFields) : Nat :=
  let firstWeekday := ((newYear date.year).toNat + 1) % 7
  ((dayOfYear date.month date.day).toNat - 1 + firstWeekday) / 7 + 1

end Daybook.Solar
