import Daybook.Calendar.Gregorian
import Daybook.Proofs.Calendar.YearPlan

/-!
Contract: Gregorian dates and days as two views of the same thing.

Owns:
- years as places in rows of four, centuries, and four centuries;
- the days of a year, found from the year and found again from the day;
- the dates that the calendar has, and the fields of a day;
- the bounds of the year and the week of a day.

Does not own: dates of other calendars, or how dates are built from parts.
-/

namespace Daybook.Gregorian

def yearLength (year : Nat) : Nat :=
  if isLeapYear year then 366 else 365

theorem le_yearLength (year : Nat) : 365 ≤ yearLength year := by
  unfold yearLength
  split
  · decide
  · exact Nat.le_refl 365

theorem yearLength_le (year : Nat) : yearLength year ≤ 366 := by
  unfold yearLength
  split
  · exact Nat.le_refl 366
  · decide

theorem total_monthLengths (year : Nat) : YearPlan.total (monthLengths year) = yearLength year := by
  unfold monthLengths yearLength
  split
  · rfl
  · rfl

/-! ### The place of a year in its four centuries -/

/-- Every year has a place in a row of a century of four. -/
theorem exists_place
    {year : Nat}
    (isYear : 1 ≤ year) :
    ∃ cycle century row place : Nat,
      century ≤ 3 ∧ row ≤ 24 ∧ place ≤ 3 ∧
        year = 400 * cycle + 100 * century + 4 * row + place + 1 := by
  refine ⟨(year - 1) / 400, (year - 1) % 400 / 100, (year - 1) % 100 / 4, (year - 1) % 4,
    ?_, ?_, ?_, ?_⟩
  · omega
  · omega
  · omega
  · omega

section Place

variable
  {century row place : Nat}
  (isCentury : century ≤ 3)
  (isRow : row ≤ 24)
  (isPlace : place ≤ 3)

include isCentury isRow isPlace

/-- The leap years close the rows of four years; of the centuries, only the last one does. -/
theorem isLeapYear_place (cycle : Nat) :
    isLeapYear (400 * cycle + 100 * century + 4 * row + place + 1) = true ↔
      place = 3 ∧ (row = 24 → century = 3) := by
  simp only [isLeapYear, Bool.and_eq_true, Bool.or_eq_true, beq_iff_eq, bne_iff_ne]
  omega

theorem daysBeforeYear_place (cycle : Nat) :
    daysBeforeYear (400 * cycle + 100 * century + 4 * row + place + 1) =
      146097 * cycle + 36524 * century + 1461 * row + 365 * place := by
  simp only [daysBeforeYear]
  omega

end Place

/-- A day is split off by its place: only the last row of four centuries, and the rows before the
last one of a century, have a leap day at their end. -/
theorem splitYears_place
    (cycle : Nat)
    {century row inRow : Nat}
    (isCentury : century ≤ 3)
    (isRow : row ≤ 24)
    (isInRow : inRow < 1461)
    (lastDay : inRow = 1460 → row = 24 → century = 3) :
    splitYears (146097 * cycle + (36524 * century + (1461 * row + inRow))) =
      (400 * cycle + 100 * century + 4 * row + min (inRow / 365) 3 + 1,
        inRow - min (inRow / 365) 3 * 365) := by
  have inCentury : 1461 * row + inRow < 36524 ∨ century = 3 ∧ 1461 * row + inRow = 36524 := by
    omega
  have rowFound : (1461 * row + inRow) / 1461 = row := by omega
  have inRowFound : (1461 * row + inRow) % 1461 = inRow := by omega
  -- Each sum is made opaque once it was divided, so that every division is of two summands only.
  generalize 1461 * row + inRow = rest at *
  have inCycle : 36524 * century + rest < 146097 := by omega
  have centuryFound : min ((36524 * century + rest) / 36524) 3 = century := by omega
  have restFound : 36524 * century + rest - century * 36524 = rest := by omega
  generalize 36524 * century + rest = position at *
  have cycleFound : (146097 * cycle + position) / 146097 = cycle := by omega
  have positionFound : (146097 * cycle + position) % 146097 = position := by omega
  simp only [splitYears, cycleFound, positionFound, centuryFound, restFound, rowFound, inRowFound]

/-- The days of a year are those from its first one on, and are split off as such. -/
theorem splitYears_daysBeforeYear
    {year position : Nat}
    (isYear : 1 ≤ year)
    (inYear : position < yearLength year) :
    splitYears (daysBeforeYear year + position) = (year, position) := by
  obtain ⟨cycle, century, row, place, isCentury, isRow, isPlace, rfl⟩ := exists_place isYear
  have leap := isLeapYear_place isCentury isRow isPlace cycle
  have bound : position < 366 ∧ (position = 365 → place = 3 ∧ (row = 24 → century = 3)) := by
    unfold yearLength at inYear
    split at inYear
    · exact ⟨inYear, fun _ => leap.1 ‹_›⟩
    · omega
  clear leap inYear
  obtain ⟨inLongYear, lastDay⟩ := bound
  have isInRow : 365 * place + position < 1461 := by omega
  have closes : 365 * place + position = 1460 → row = 24 → century = 3 := by omega
  have placeFound : min ((365 * place + position) / 365) 3 = place := by omega
  have positionFound : 365 * place + position - place * 365 = position := by omega
  rw [daysBeforeYear_place isCentury isRow isPlace]
  simp only [Nat.add_assoc]
  rw [splitYears_place cycle isCentury isRow isInRow closes, placeFound, positionFound]
  simp only [Nat.add_assoc]

/-- Every position has a place in a row of a century of four. -/
theorem exists_place_position (position : Nat) :
    ∃ cycle century row inRow : Nat,
      century ≤ 3 ∧ row ≤ 24 ∧ inRow < 1461 ∧ (inRow = 1460 → row = 24 → century = 3) ∧
        position = 146097 * cycle + (36524 * century + (1461 * row + inRow)) := by
  obtain ⟨cycle, inCycle, isInCycle, rfl⟩ :
      ∃ cycle inCycle, inCycle < 146097 ∧ position = 146097 * cycle + inCycle :=
    ⟨position / 146097, position % 146097, by omega, by omega⟩
  obtain ⟨century, inCentury, isCentury, isInCentury, rfl⟩ :
      ∃ century inCentury, century ≤ 3 ∧
        (inCentury < 36524 ∨ century = 3 ∧ inCentury = 36524) ∧
          inCycle = 36524 * century + inCentury :=
    ⟨min (inCycle / 36524) 3, inCycle - 36524 * min (inCycle / 36524) 3, by omega, by omega,
      by omega⟩
  exact ⟨cycle, century, inCentury / 1461, inCentury % 1461, isCentury, by omega, by omega,
    by omega, by omega⟩

theorem year_splitYears_le
    {position : Nat}
    (inCalendar : position < lastDayNumber) :
    1 ≤ (splitYears position).1 ∧ (splitYears position).1 ≤ 9999 := by
  obtain ⟨cycle, century, row, inRow, isCentury, isRow, isInRow, lastDay, rfl⟩ :=
    exists_place_position position
  rw [splitYears_place cycle isCentury isRow isInRow lastDay]
  simp only [lastDayNumber] at inCalendar
  have isCycle : cycle ≤ 24 := by omega
  have isPlace : min (inRow / 365) 3 ≤ 3 := Nat.min_le_right _ _
  dsimp only
  omega

theorem position_splitYears_le (position : Nat) : (splitYears position).2 ≤ 365 := by
  obtain ⟨cycle, century, row, inRow, isCentury, isRow, isInRow, lastDay, rfl⟩ :=
    exists_place_position position
  rw [splitYears_place cycle isCentury isRow isInRow lastDay]
  dsimp only
  omega

/-- Every position lies in the year that it is split into. -/
theorem position_splitYears_lt (position : Nat) :
    (splitYears position).2 < yearLength (splitYears position).1 := by
  obtain ⟨cycle, century, row, inRow, isCentury, isRow, isInRow, lastDay, rfl⟩ :=
    exists_place_position position
  have isPlace : min (inRow / 365) 3 ≤ 3 := Nat.min_le_right _ _
  have leap := isLeapYear_place isCentury isRow isPlace cycle
  rw [splitYears_place cycle isCentury isRow isInRow lastDay]
  unfold yearLength
  dsimp only
  split
  · omega
  · rename_i notLeap
    rw [leap] at notLeap
    omega

/-! ### Dates and days -/

/-- The calendar's dates, by the ranges of their parts. -/
theorem flaw?_eq_none_iff
    (year month day : Int) :
    flaw? year month day = none ↔
      (1 ≤ year ∧ year ≤ 9999) ∧ (1 ≤ month ∧ month ≤ 12) ∧
        (1 ≤ day ∧ day ≤ YearPlan.lengthOf (monthLengths year.toNat) month.toNat) := by
  unfold flaw?
  split
  · simp [*]
  · split
    · simp [*]
    · split <;> simp_all

/-- The day of a date lies at a position of its year, at which the date is found. -/
theorem exists_position
    {year month day : Int}
    (noFlaw : flaw? year month day = none) :
    ∃ position,
      dayNumber ⟨year.toNat, month.toNat, day.toNat⟩ =
          daysBeforeYear year.toNat + position + 1 ∧
        position < yearLength year.toNat ∧
        YearPlan.locate (monthLengths year.toNat) 1 position = (month.toNat, day.toNat) := by
  obtain ⟨-, isMonth, isDay⟩ := (flaw?_eq_none_iff year month day).1 noFlaw
  have monthFound : 1 ≤ month.toNat ∧ month.toNat ≤ 12 := by omega
  have dayFound :
      1 ≤ day.toNat ∧ day.toNat ≤ YearPlan.lengthOf (monthLengths year.toNat) month.toNat := by
    omega
  obtain ⟨position, number, inYear, located⟩ := YearPlan.exists_position monthFound dayFound
  rw [total_monthLengths] at inYear
  refine ⟨position, ?_, inYear, located⟩
  rw [dayNumber, Nat.add_assoc, number, Nat.add_assoc]

/-- Every date that the calendar has is the date of a day. -/
theorem exists_toDay
    {year month day : Int}
    (noFlaw : flaw? year month day = none) :
    ∃ found, toDay year month day = .ok found := by
  obtain ⟨position, number, inYear, -⟩ := exists_position noFlaw
  obtain ⟨isYear, -⟩ := (flaw?_eq_none_iff year month day).1 noFlaw
  obtain ⟨year, rfl⟩ : ∃ natural : Nat, year = natural := ⟨year.toNat, by omega⟩
  rw [Int.toNat_natCast] at number inYear
  -- Only the last year ends with the last day, and it is not a leap year.
  have inside : daysBeforeYear year + position < lastDayNumber := by
    rcases (show year ≤ 9998 ∨ year = 9999 by omega) with earlier | rfl
    · have bound := yearLength_le year
      simp only [daysBeforeYear, lastDayNumber]
      omega
    · have length : yearLength 9999 = 365 := rfl
      have start : daysBeforeYear 9999 = 3651694 := rfl
      simp only [lastDayNumber]
      omega
  have bounds : 1 ≤ ((dayNumber ⟨year, month.toNat, day.toNat⟩ : Nat) : Int) ∧
      ((dayNumber ⟨year, month.toNat, day.toNat⟩ : Nat) : Int) ≤ lastDayNumber := by
    omega
  rw [toDay, noFlaw, Int.toNat_natCast, Day.ofNumber?, dif_pos bounds]
  exact ⟨_, rfl⟩

/-- The date at a position of a year. -/
def dateAt (place : Nat × Nat) : DateFields :=
  let (year, position) := place
  let (month, dayOfMonth) := YearPlan.locate (monthLengths year) 1 position
  ⟨year, month, dayOfMonth⟩

theorem fields_eq (found : Day) : fields found = dateAt (splitYears (found.number - 1)) := rfl

theorem year_dateAt (place : Nat × Nat) : (dateAt place).year = place.1 := rfl

theorem dateAt_of_locate
    {year position month day : Nat}
    (located : YearPlan.locate (monthLengths year) 1 position = (month, day)) :
    dateAt (year, position) = ⟨year, month, day⟩ := by
  unfold dateAt
  dsimp only
  rw [located]

/-- The day of a date has the fields of that date. -/
theorem fields_toDay
    {year month day : Int}
    {found : Day}
    (isDay : toDay year month day = .ok found) :
    flaw? year month day = none ∧
      fields found = ⟨year.toNat, month.toNat, day.toNat⟩ := by
  unfold toDay at isDay
  split at isDay
  · cases isDay
  · rename_i noFlaw
    obtain ⟨position, number, inYear, located⟩ := exists_position noFlaw
    obtain ⟨isYear, -⟩ := (flaw?_eq_none_iff year month day).1 noFlaw
    split at isDay
    · rename_i day isNumber
      cases isDay
      have dayNumber := Day.number_of_ofNumber? isNumber
      have place : found.number - 1 = daysBeforeYear year.toNat + position := by omega
      have firstYear : 1 ≤ year.toNat := by omega
      refine ⟨noFlaw, ?_⟩
      rw [fields_eq, place, splitYears_daysBeforeYear firstYear inYear, dateAt_of_locate located]
    · cases isDay

/-- The fields of a day are a date that the calendar has. -/
theorem flaw?_fields (found : Day) :
    flaw? (fields found).year (fields found).month (fields found).day = none := by
  have inside : found.number - 1 < lastDayNumber := by
    have first := found.first_le
    have last := found.le_last
    omega
  have isYear := year_splitYears_le inside
  have inYear := position_splitYears_lt (found.number - 1)
  rw [fields_eq]
  generalize splitYears (found.number - 1) = place at isYear inYear
  obtain ⟨year, position⟩ := place
  dsimp only at isYear inYear
  rw [← total_monthLengths] at inYear
  obtain ⟨month, day, located, isMonth, inMonth, -⟩ := YearPlan.locate_of_lt_total _ 1 inYear
  have lastMonth : month < 12 := isMonth
  rw [dateAt_of_locate located]
  refine (flaw?_eq_none_iff (year : Int) (1 + month : Nat) (day + 1 : Nat)).2
    ⟨by omega, by omega, by omega, ?_⟩
  rw [Int.toNat_natCast, Int.toNat_natCast, Nat.add_comm 1 month]
  omega

/-! ### Bounds -/

/-- Every day lies in one of the years that have four digits. -/
theorem year_fields (found : Day) : 1 ≤ (fields found).year ∧ (fields found).year ≤ 9999 := by
  have inside : found.number - 1 < lastDayNumber := by
    have first := found.first_le
    have last := found.le_last
    omega
  rw [fields_eq, year_dateAt]
  exact year_splitYears_le inside

/-- A year has at most fifty-three weeks, so that a week has at most two digits. -/
theorem week_le (found : Day) : week found ≤ 53 := by
  have bound := position_splitYears_le (found.number - 1 - weekdayFromMonday found + 3)
  simp only [week]
  omega

end Daybook.Gregorian
