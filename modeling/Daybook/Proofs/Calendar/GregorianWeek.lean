import Daybook.Proofs.Calendar.Date
import Mathlib.Tactic.IntervalCases

/-!
Contract: the weeks of Gregorian years, and the days that are found by them.

Owns:
- the place of a date between the ends of its year;
- a day that is moved to another year;
- the year to which a week belongs, and the days whose week belongs to their own year;
- the weeks that lie inside the year to which they belong.

Does not own: weeks of other calendars, or the pattern in which a week is written.
-/

namespace Daybook

namespace Gregorian

/-! ### The days of a year -/

theorem daysBeforeYear_splitYears (position : Nat) :
    daysBeforeYear (splitYears position).1 + (splitYears position).2 = position := by
  obtain ⟨cycle, century, row, inRow, isCentury, isRow, isInRow, lastDay, rfl⟩ :=
    exists_place_position position
  have isPlace : min (inRow / 365) 3 ≤ 3 := Nat.min_le_right _ _
  rw [splitYears_place cycle isCentury isRow isInRow lastDay]
  dsimp only
  rw [daysBeforeYear_place isCentury isRow isPlace]
  omega

/-- The first month opens the year, and the last one closes it. -/
theorem place_of_month
    (year : Nat)
    {month : Nat}
    (isMonth : 1 ≤ month ∧ month ≤ 12) :
    28 ≤ YearPlan.lengthOf (monthLengths year) month ∧
      (month = 1 ∨ 31 ≤ YearPlan.daysBefore (monthLengths year) month) ∧
      (month = 12 ∧ YearPlan.lengthOf (monthLengths year) month = 31 ∧
          YearPlan.daysBefore (monthLengths year) month + 31 = yearLength year ∨
        month ≠ 12 ∧ YearPlan.daysBefore (monthLengths year) month +
          YearPlan.lengthOf (monthLengths year) month + 30 ≤ yearLength year) := by
  obtain ⟨first, last⟩ := isMonth
  unfold monthLengths yearLength
  generalize isLeapYear year = leap
  interval_cases month <;> cases leap <;> decide

/-- A date lies inside its year, and only the first three days of January and the last three of
December lie within three days of its ends. -/
theorem exists_position_of_toDay
    {year month day : Int}
    {found : Day}
    (isDay : toDay year month day = .ok found) :
    ∃ position,
      found.number = daysBeforeYear year.toNat + position + 1 ∧
        position < yearLength year.toNat ∧
        (position < 3 → month = 1 ∧ day ≤ 3) ∧
        (yearLength year.toNat ≤ position + 3 → month = 12 ∧ 29 ≤ day) := by
  obtain ⟨isYear, isMonth, startsMonth, endsMonth⟩ :=
    (flaw?_eq_none_iff _ _ _).1 (fields_toDay isDay).1
  have number : found.number = dayNumber ⟨year.toNat, month.toNat, day.toNat⟩ := by
    unfold toDay at isDay
    split at isDay
    · cases isDay
    · split at isDay
      · rename_i isNumber
        cases isDay
        have same := Day.number_of_ofNumber? isNumber
        omega
      · cases isDay
  simp only [dayNumber] at number
  obtain ⟨-, opens, closes⟩ :=
    place_of_month year.toNat (show 1 ≤ month.toNat ∧ month.toNat ≤ 12 by omega)
  exact ⟨YearPlan.daysBefore (monthLengths year.toNat) month.toNat + (day.toNat - 1),
    by omega, by omega, by omega, by omega⟩

/-- Today can be moved to every year: to the same day of the same month, or to the last day of a
month that is too short. -/
theorem exists_inYear
    (today : Day)
    {year : Int}
    (isYear : 1 ≤ year ∧ year ≤ 9999) :
    ∃ moved,
      toDay year (fields today).month
          (min (fields today).day
            (YearPlan.lengthOf (monthLengths year.toNat) (fields today).month)) = .ok moved ∧
        inYear today year = .ok moved := by
  obtain ⟨-, isMonth, isDay, -⟩ := (flaw?_eq_none_iff _ _ _).1 (flaw?_fields today)
  have positive : 28 ≤ YearPlan.lengthOf (monthLengths year.toNat) (fields today).month :=
    (place_of_month _ (by omega)).1
  obtain ⟨moved, isMoved⟩ := exists_toDay
    ((flaw?_eq_none_iff year (fields today).month
      (min ((fields today).day : Int)
        (YearPlan.lengthOf (monthLengths year.toNat) (fields today).month))).2
          ⟨isYear, isMonth, by omega, by rw [Int.toNat_natCast]; omega⟩)
  refine ⟨moved, isMoved, ?_⟩
  have inWordYear := inWord_of_le isYear
  have notZero : year ≠ 0 := by omega
  rw [inYear, if_neg notZero, inWordYear]
  unfold moveToYear
  dsimp only
  rw [isMoved]
  rfl

/-! ### Weeks -/

/-- The position of the Thursday in the week of a day, counted from the first day of the first
year. -/
def thursday (day : Day) : Nat :=
  day.number - 1 - weekdayFromMonday day + 3

/-- The year to which the week of a day belongs: that of its Thursday. -/
def weekYear (day : Day) : Nat :=
  (splitYears (thursday day)).1

/-- The Thursday of a week is no more than three days from any of its days. -/
theorem number_eq_thursday (day : Day) :
    day.number + 2 = thursday day + weekdayFromMonday day ∧ weekdayFromMonday day < 7 := by
  have first := day.first_le
  simp only [thursday, weekdayFromMonday]
  omega

theorem week_eq (day : Day) : week day = (splitYears (thursday day)).2 / 7 + 1 := rfl

/-- From the fourth of January to the twenty-eighth of December, days have their week in their own
year. -/
theorem weekYear_of_toDay
    {year month day : Int}
    {found : Day}
    (isDay : toDay year month day = .ok found)
    (notFirst : month = 1 → 4 ≤ day)
    (notLast : month = 12 → day ≤ 28) :
    (weekYear found : Int) = year := by
  obtain ⟨⟨firstYear, -⟩, -⟩ := (flaw?_eq_none_iff _ _ _).1 (fields_toDay isDay).1
  obtain ⟨position, number, inYear, opens, closes⟩ := exists_position_of_toDay isDay
  have near := number_eq_thursday found
  obtain ⟨place, isPlace, inside⟩ : ∃ place,
      thursday found = daysBeforeYear year.toNat + place ∧ place < yearLength year.toNat :=
    ⟨position + 3 - weekdayFromMonday found, by omega, by omega⟩
  rw [weekYear, isPlace, splitYears_daysBeforeYear (by omega) inside]
  exact Int.toNat_of_nonneg (by omega)

/-- Before the last year, a week belongs to a year that the calendar has. -/
theorem weekYear_le_of_toDay
    {year month day : Int}
    {found : Day}
    (isDay : toDay year month day = .ok found)
    (notLast : year ≤ 9998) :
    1 ≤ weekYear found ∧ weekYear found ≤ 9999 := by
  obtain ⟨position, number, inYear, -⟩ := exists_position_of_toDay isDay
  have near := number_eq_thursday found
  have short := yearLength_le year.toNat
  refine year_splitYears_le ?_
  simp only [daysBeforeYear, lastDayNumber] at number ⊢
  omega

/-- The week of every day belongs to a year that the calendar has. -/
theorem weekYear_le (day : Day) : 1 ≤ weekYear day ∧ weekYear day ≤ 9999 := by
  have last := day.le_last
  apply year_splitYears_le
  simp only [thursday, weekdayFromMonday, lastDayNumber] at last ⊢
  omega

theorem fields_eq_year
    {day : Day}
    {year position : Nat}
    (isYear : 1 ≤ year)
    (number : day.number = daysBeforeYear year + position + 1)
    (inYear : position < yearLength year) :
    (fields day).year = year := by
  have place : day.number - 1 = daysBeforeYear year + position := by omega
  rw [fields_eq, place, splitYears_daysBeforeYear isYear inYear, year_dateAt]

/-- From any day, the weeks from the second to the fifty-first lie inside the year to which the week
of that day belongs. -/
theorem exists_day_of_week
    {start : Day}
    (isYear : 1 ≤ weekYear start ∧ weekYear start ≤ 9999)
    {week : Nat}
    (isWeek : 2 ≤ week ∧ week ≤ 51) :
    ∃ day : Day,
      (day.number : Int) = start.number + 7 * ((week : Int) - Gregorian.week start) ∧
        Gregorian.week day = week ∧ (fields day).year = weekYear start := by
  have there := daysBeforeYear_splitYears (thursday start)
  have near := number_eq_thursday start
  rw [week_eq]
  unfold weekYear at isYear ⊢
  generalize splitYears (thursday start) = place at there isYear ⊢
  obtain ⟨year, position⟩ := place
  dsimp only at there isYear ⊢
  have long := le_yearLength year
  have inside : 1 ≤ (start.number : Int) + 7 * ((week : Int) - (position / 7 + 1 : Nat)) ∧
      (start.number : Int) + 7 * ((week : Int) - (position / 7 + 1 : Nat)) ≤ lastDayNumber := by
    have last : daysBeforeYear year + 365 ≤ lastDayNumber := by
      simp only [daysBeforeYear, lastDayNumber]
      omega
    omega
  obtain ⟨day, isDay⟩ := Day.exists_ofNumber? inside
  have number := Day.number_of_ofNumber? isDay
  have sameWeekday : weekdayFromMonday day = weekdayFromMonday start := by
    have first := day.first_le
    have firstStart := start.first_le
    simp only [weekdayFromMonday]
    omega
  have nearDay := number_eq_thursday day
  refine ⟨day, number, ?_, ?_⟩
  · have thursdayOf : thursday day = daysBeforeYear year + (7 * (week - 1) + position % 7) := by
      omega
    rw [week_eq, thursdayOf, splitYears_daysBeforeYear isYear.1 (by omega)]
    dsimp only
    omega
  · have place : day.number = daysBeforeYear year +
        (7 * (week - 1) + position % 7 + weekdayFromMonday start - 3) + 1 := by
      omega
    exact fields_eq_year isYear.1 place (by omega)

end Gregorian

/-- From any day, a week from the second to the fifty-first leads to that week of the year to which
the week of the day belongs. -/
theorem Date.exists_toWeek_gregorian
    {start : Day}
    (isYear : 1 ≤ Gregorian.weekYear start ∧ Gregorian.weekYear start ≤ 9999)
    {week : Nat}
    (isWeek : 2 ≤ week ∧ week ≤ 51) :
    ∃ day, toWeek ⟨.gregorian, start⟩ week = .ok ⟨.gregorian, day⟩ ∧
      Gregorian.week day = week ∧ (Gregorian.fields day).year = Gregorian.weekYear start := by
  obtain ⟨day, number, sameWeek, sameYear⟩ := Gregorian.exists_day_of_week isYear isWeek
  have found : Date.week ⟨.gregorian, start⟩ = .ok (Gregorian.week start) := rfl
  refine ⟨day, toWeek_eq_ok found ?_, sameWeek, sameYear⟩
  rw [← number, Day.ofNumber?_number]

end Daybook
