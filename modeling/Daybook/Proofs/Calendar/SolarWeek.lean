import Daybook.Proofs.Calendar.Reach
import Mathlib.Tactic.IntervalCases

/-!
Contract: the weeks of a solar year, and the days that are found by them.

Owns:
- the days of a year as the numbers between two new year days;
- the length of a year and of its months, as they are found from the new year days;
- a day that is moved to another year;
- weeks as rows of seven days from the Saturday on or before the new year day.

Does not own: weeks of other calendars, or the pattern in which a week is written.
-/

namespace Daybook

theorem Day.weekday_lt (day : Day) : day.weekday < 7 :=
  Nat.mod_lt _ (by decide)

namespace Solar

/-! ### The days of a year -/

theorem newYear_succ (year : Int) : newYear (year + 1) = newYear year + yearLength year := by
  obtain ⟨cycle, row, place, isRow, isPlace, lastRow, rfl⟩ := exists_place year
  have length : yearLength (979 + 33 * cycle + 4 * row + place) =
      if place = 0 ∧ row ≠ 8 then 366 else 365 := by
    simp only [yearLength, isLeapResidue_place isRow isPlace lastRow cycle]
  -- The next year stands in the same row, or opens the next row, or the next cycle.
  obtain ⟨nextCycle, nextRow, nextPlace, isNextRow, isNextPlace, nextLastRow, next, number⟩ :
      ∃ nextCycle : Int, ∃ nextRow nextPlace : Nat,
        nextRow ≤ 8 ∧ nextPlace ≤ 3 ∧ (nextRow = 8 → nextPlace = 0) ∧
          979 + 33 * cycle + 4 * (row : Int) + place + 1 =
            979 + 33 * nextCycle + 4 * nextRow + nextPlace ∧
          (row = 8 ∧ nextCycle = cycle + 1 ∧ nextRow = 0 ∧ nextPlace = 0 ∨
            row < 8 ∧ place = 3 ∧ nextCycle = cycle ∧ nextRow = row + 1 ∧ nextPlace = 0 ∨
            row < 8 ∧ place < 3 ∧ nextCycle = cycle ∧ nextRow = row ∧ nextPlace = place + 1) := by
    by_cases closesCycle : row = 8
    · exact ⟨cycle + 1, 0, 0, by omega, by omega, by omega, by omega, by omega⟩
    · by_cases closesRow : place = 3
      · exact ⟨cycle, row + 1, 0, by omega, by omega, by omega, by omega, by omega⟩
      · exact ⟨cycle, row, place + 1, by omega, by omega, by omega, by omega, by omega⟩
  rw [next, newYear_place isNextRow isNextPlace nextLastRow, newYear_place isRow isPlace lastRow,
    length]
  split <;> split <;> split <;> omega

theorem seven_le_newYear
    {year : Int}
    (isYear : 1 ≤ year) :
    7 ≤ newYear year := by
  simp only [newYear]
  omega

theorem newYear_lt_lastDayNumber
    {year : Int}
    (isYear : year ≤ lastYear) :
    newYear year + 366 < lastDayNumber := by
  simp only [newYear, lastYear, lastDayNumber] at *
  omega

theorem number_toDay
    {year month day : Int}
    {found : Day}
    (isDay : toDay year month day = .ok found) :
    (found.number : Int) =
      newYear year + YearPlan.daysBefore (monthLengths year) month.toNat + day - 1 := by
  unfold toDay at isDay
  split at isDay
  · cases isDay
  · split at isDay
    · rename_i isNumber
      cases isDay
      exact Day.number_of_ofNumber? isNumber
    · cases isDay

/-- The date of a day is its place in the year. -/
theorem number_of_fields?
    {day : Day}
    {date : DateFields}
    (isDate : fields? day = some date) :
    (1 ≤ (date.year : Int) ∧ (date.year : Int) ≤ lastYear) ∧ 1 ≤ dayOfYear date.month date.day ∧
      (day.number : Int) = newYear date.year + dayOfYear date.month date.day - 1 := by
  unfold fields? at isDate
  obtain ⟨number, inYear⟩ := newYear_splitYears day.number
  generalize splitYears day.number = place at isDate number inYear
  obtain ⟨year, position⟩ := place
  rw [← total_monthLengths] at inYear
  dsimp only at number inYear
  obtain ⟨month, rest, located, isMonth, inMonth, there⟩ := YearPlan.locate_of_lt_total _ 1 inYear
  simp only [located] at isDate
  split at isDate
  · rename_i isYear
    cases isDate
    have lastMonth : month < 12 := isMonth
    have yearFound : ((year.toNat : Nat) : Int) = year := by omega
    have dayInYear := dayOfYear_eq year (rest + 1 : Nat) (1 + month) (by omega)
    rw [Nat.add_comm 1 month] at dayInYear
    dsimp only
    rw [yearFound, Nat.add_comm 1 month, dayInYear]
    exact ⟨isYear, by omega, by omega⟩
  · cases isDate

/-- The days from a new year day on have dates in that year, until the next one. -/
theorem exists_fields?_of_inYear
    {year : Int}
    (isYear : 1 ≤ year ∧ year ≤ lastYear)
    {day : Day}
    (starts : newYear year ≤ day.number)
    (ends : day.number < newYear year + yearLength year) :
    ∃ date, fields? day = some date ∧ (date.year : Int) = year := by
  obtain ⟨position, number⟩ : ∃ position : Nat, (day.number : Int) = newYear year + position :=
    ⟨(day.number - newYear year).toNat, by omega⟩
  have split := splitYears_newYear year (show position < yearLength year by omega)
  rw [← number] at split
  unfold fields?
  rw [split]
  dsimp only
  rw [if_pos isYear]
  exact ⟨_, rfl, Int.toNat_of_nonneg (by omega)⟩

/-- Every number from that of a new year day on, until the next one, is that of a day of the year. -/
theorem exists_day_inYear
    {year : Int}
    (isYear : 1 ≤ year ∧ year ≤ lastYear)
    {number : Int}
    (starts : newYear year ≤ number)
    (ends : number < newYear year + yearLength year) :
    ∃ day date, (day.number : Int) = number ∧ fields? day = some date ∧ (date.year : Int) = year := by
  have first := seven_le_newYear isYear.1
  have last := newYear_lt_lastDayNumber isYear.2
  have short := yearLength_le year
  obtain ⟨day, isDay⟩ := Day.exists_ofNumber?
    (show 1 ≤ number ∧ number ≤ lastDayNumber by omega)
  have sameNumber := Day.number_of_ofNumber? isDay
  rw [← sameNumber] at starts ends
  obtain ⟨date, isDate, sameYear⟩ := exists_fields?_of_inYear isYear starts ends
  exact ⟨day, date, sameNumber, isDate, sameYear⟩

/-! ### Lengths found from the new year days -/

theorem number_newYearDay
    {year : Int}
    {found : Day}
    (isDay : toDay year 1 1 = .ok found) :
    (found.number : Int) = newYear year := by
  have opens : YearPlan.daysBefore (monthLengths year) (1 : Int).toNat = 0 := rfl
  have number := number_toDay isDay
  rw [opens] at number
  omega

theorem isLongYear_eq
    {year : Int}
    (isYear : 1 ≤ year ∧ year < lastYear) :
    isLongYear year = .ok (isLeapResidue year) := by
  obtain ⟨start, isStart⟩ := (exists_newYearDay_iff year).2 (by omega)
  obtain ⟨finish, isFinish⟩ := (exists_newYearDay_iff (year + 1)).2 (by omega)
  have startNumber := number_newYearDay isStart
  have finishNumber := number_newYearDay isFinish
  have next := newYear_succ year
  refine Attempt.bind_eq_ok_iff.2 ⟨start, isStart, Attempt.bind_eq_ok_iff.2 ⟨finish, isFinish, ?_⟩⟩
  unfold yearLength at next
  cases leap : isLeapResidue year with
  | true =>
    rw [leap, if_pos rfl] at next
    have long : finish.number - start.number = 366 := by omega
    rw [long]
    rfl
  | false =>
    rw [leap, if_neg Bool.false_ne_true] at next
    have short : finish.number - start.number = 365 := by omega
    rw [short]
    rfl

theorem lengthOf_monthLengths
    (year : Int)
    {month : Nat}
    (isMonth : 1 ≤ month ∧ month ≤ 12) :
    YearPlan.lengthOf (monthLengths year) month =
      if month ≤ 6 then 31
      else if month ≤ 11 then 30
      else if isLeapResidue year then 30
      else 29 := by
  obtain ⟨first, last⟩ := isMonth
  interval_cases month <;> rfl

/-- The length of a month is found in every year, but that of the last month only in a year that
another one follows. -/
theorem monthLength_eq
    {year : Int}
    {month : Nat}
    (isMonth : 1 ≤ month ∧ month ≤ 12)
    (isYear : month = 12 → 1 ≤ year ∧ year < lastYear) :
    monthLength year month = .ok (YearPlan.lengthOf (monthLengths year) month) := by
  rw [lengthOf_monthLengths year isMonth, monthLength]
  by_cases early : month ≤ 6
  · rw [if_pos (show (month : Int) ≤ 6 by omega), if_pos early]
    rfl
  · rw [if_neg (show ¬ (month : Int) ≤ 6 by omega), if_neg early]
    by_cases inside : month ≤ 11
    · rw [if_pos (show (month : Int) ≤ 11 by omega), if_pos inside]
      rfl
    · rw [if_neg (show ¬ (month : Int) ≤ 11 by omega), if_neg inside,
        isLongYear_eq (isYear (by omega))]
      rfl

/-- Today can be moved to every year in which its month has a length that is known: to the same day
of the month, or to its last day if it is too short. -/
theorem exists_inYear_of_known
    {today : Day}
    {now : DateFields}
    (isNow : fields? today = some now)
    {year : Int}
    (isYear : 1 ≤ year ∧ year ≤ lastYear)
    (known : now.month = 12 → year < lastYear) :
    ∃ moved,
      toDay year now.month (min now.day (YearPlan.lengthOf (monthLengths year) now.month)) =
          .ok moved ∧
        inYear today year = .ok moved := by
  obtain ⟨-, isMonth, isDay, -⟩ := (flaw?_eq_none_iff _ _ _).1 (flaw?_fields? isNow)
  have length : (monthLength year now.month).mapError Fault.solarFlaw =
      .ok (YearPlan.lengthOf (monthLengths year) now.month) := by
    rw [monthLength_eq (by omega) fun isLast => ⟨isYear.1, known isLast⟩]
    rfl
  have positive : 29 ≤ YearPlan.lengthOf (monthLengths year) now.month := by
    rw [lengthOf_monthLengths year (by omega)]
    split
    · decide
    · split
      · decide
      · split <;> decide
  obtain ⟨moved, isMoved⟩ := exists_toDay
    ((flaw?_eq_none_iff year now.month
      (min (now.day : Int) (YearPlan.lengthOf (monthLengths year) now.month))).2
        ⟨by omega, isMonth, by omega, by rw [Int.toNat_natCast]; omega⟩)
  refine ⟨moved, isMoved, ?_⟩
  have fields := Date.fields_solar_eq_ok_iff.2 isNow
  refine Attempt.bind_eq_ok_iff.2 ⟨now, fields, Attempt.bind_eq_ok_iff.2 ⟨_, length, ?_⟩⟩
  simp only [build, isMoved]

theorem exists_inYear
    {today : Day}
    {now : DateFields}
    (isNow : fields? today = some now)
    {year : Int}
    (isYear : 1 ≤ year ∧ year < lastYear) :
    ∃ moved,
      toDay year now.month (min now.day (YearPlan.lengthOf (monthLengths year) now.month)) =
          .ok moved ∧
        inYear today year = .ok moved :=
  exists_inYear_of_known isNow ⟨isYear.1, Int.le_of_lt isYear.2⟩ fun _ => isYear.2

/-! ### Weeks -/

/-- The number of the Saturday on or before the new year day: there the first week begins. -/
def firstSaturday (year : Int) : Int :=
  newYear year - (newYear year + 1) % 7

/-- The first week begins on the only Saturday that is no later than the new year day and less than
seven days before it. -/
theorem exists_firstSaturday
    {year : Int}
    (isYear : 1 ≤ year ∧ year < lastYear) :
    ∃ saturday : Day, (saturday.number : Int) = firstSaturday year ∧ saturday.weekday = 0 ∧
      (saturday.number : Int) ≤ newYear year ∧ newYear year < saturday.number + 7 := by
  have late := seven_le_newYear isYear.1
  have last := newYear_lt_lastDayNumber (Int.le_of_lt isYear.2)
  obtain ⟨saturday, isSaturday⟩ := Day.exists_ofNumber?
    (show 1 ≤ firstSaturday year ∧ firstSaturday year ≤ lastDayNumber by
      unfold firstSaturday
      omega)
  have number := Day.number_of_ofNumber? isSaturday
  refine ⟨saturday, number, ?_⟩
  simp only [firstSaturday, Day.weekday] at number ⊢
  omega

/-- A day lies in a week of its year by its distance from the first Saturday. -/
theorem number_eq_week
    {day : Day}
    {date : DateFields}
    (isDate : fields? day = some date) :
    (day.number : Int) = firstSaturday date.year + 7 * ((week date : Int) - 1) + day.weekday := by
  obtain ⟨isYear, inYear, number⟩ := number_of_fields? isDate
  have late := seven_le_newYear isYear.1
  simp only [firstSaturday, week, Day.weekday]
  omega

section Inside

variable
  {week weekday : Nat}
  (isWeek : 2 ≤ week ∧ week ≤ 52)
  (isWeekday : weekday < 7)

include isWeek isWeekday

/-- The weeks from the second to the fifty-second lie inside their year. -/
theorem inYear_of_week (year : Int) :
    newYear year ≤ firstSaturday year + 7 * (week - 1) + weekday ∧
      firstSaturday year + 7 * (week - 1) + weekday < newYear year + yearLength year := by
  have long := le_yearLength year
  unfold firstSaturday
  omega

/-- A day of such a week lies in the year, and in that week of it. -/
theorem exists_day_of_row
    {year : Int}
    (isYear : 1 ≤ year ∧ year ≤ lastYear) :
    ∃ day : Day, ∃ date,
      (day.number : Int) = firstSaturday year + 7 * (week - 1) + weekday ∧
        fields? day = some date ∧ (date.year : Int) = year ∧ Solar.week date = week := by
  obtain ⟨starts, ends⟩ := inYear_of_week isWeek isWeekday year
  obtain ⟨day, date, number, isDate, sameYear⟩ := exists_day_inYear isYear starts ends
  have here := number_eq_week isDate
  have isWeekdayOf := day.weekday_lt
  rw [sameYear] at here
  exact ⟨day, date, number, isDate, sameYear, by omega⟩

end Inside

theorem exists_day_of_week
    {year : Int}
    (isYear : 1 ≤ year ∧ year < lastYear)
    {week : Nat}
    (isWeek : 2 ≤ week ∧ week ≤ 52)
    {weekday : Nat}
    (isWeekday : weekday < 7) :
    ∃ day : Day, ∃ date,
      (day.number : Int) = firstSaturday year + 7 * (week - 1) + weekday ∧
        fields? day = some date ∧ (date.year : Int) = year ∧ Solar.week date = week :=
  exists_day_of_row isWeek isWeekday ⟨isYear.1, Int.le_of_lt isYear.2⟩

end Solar

namespace Date

open Solar

/-- From a day of a solar year, a week leads to the same weekday, counted from the first Saturday of
that year. -/
theorem toWeek_solar
    {start day : Day}
    {date : DateFields}
    (isDate : fields? start = some date)
    {week : Int}
    (number : (day.number : Int) = firstSaturday date.year + 7 * (week - 1) + start.weekday) :
    toWeek ⟨.solar, start⟩ week = .ok ⟨.solar, day⟩ := by
  have found := week_solar_eq_ok isDate
  have here := number_eq_week isDate
  have there : (start.number : Int) + 7 * (week - Solar.week date) = day.number := by omega
  refine toWeek_eq_ok found ?_
  rw [there, Day.ofNumber?_number]

/-- From any day, a week from the second to the fifty-second leads to that week of the year of the
day. -/
theorem exists_toWeek_solar
    {start : Day}
    {date : DateFields}
    (isDate : fields? start = some date)
    {week : Nat}
    (isWeek : 2 ≤ week ∧ week ≤ 52) :
    ∃ day shown,
      toWeek ⟨.solar, start⟩ week = .ok ⟨.solar, day⟩ ∧ fields? day = some shown ∧
        Solar.week shown = week ∧ shown.year = date.year := by
  obtain ⟨isYear, -⟩ := number_of_fields? isDate
  obtain ⟨day, shown, number, isShown, sameYear, sameWeek⟩ :=
    exists_day_of_row isWeek start.weekday_lt isYear
  exact ⟨day, shown, toWeek_solar isDate number, isShown, sameWeek, Int.ofNat.inj sameYear⟩

end Date

end Daybook
