import Daybook.Calendar.Solar
import Daybook.Proofs.Calendar.YearPlan

/-!
Contract: solar dates and days as two views of the same thing.

Owns:
- years as places in rows of four and cycles of thirty-three;
- the days of a year, found from the year and found again from the day;
- the dates that the calendar has, and the fields of a day;
- the bound of the weeks of a year.

Does not own: dates of other calendars, or how dates are built from parts.
-/

namespace Daybook.Solar

def yearLength (year : Int) : Nat :=
  if isLeapResidue year then 366 else 365

theorem le_yearLength (year : Int) : 365 ≤ yearLength year := by
  unfold yearLength
  split
  · decide
  · exact Nat.le_refl 365

theorem yearLength_le (year : Int) : yearLength year ≤ 366 := by
  unfold yearLength
  split
  · exact Nat.le_refl 366
  · decide

theorem total_monthLengths (year : Int) : YearPlan.total (monthLengths year) = yearLength year := by
  unfold monthLengths yearLength
  split
  · rfl
  · rfl

/-! ### The place of a year in its cycle -/

/-- Every year has a place in a row of a cycle.  A cycle has eight rows of four years and a last row
of one. -/
theorem exists_place (year : Int) :
    ∃ cycle : Int, ∃ row place : Nat,
      row ≤ 8 ∧ place ≤ 3 ∧ (row = 8 → place = 0) ∧
        year = 979 + 33 * cycle + 4 * row + place := by
  refine ⟨(year - 979) / 33, ((year - 979) % 33).toNat / 4, ((year - 979) % 33).toNat % 4,
    ?_, ?_, ?_, ?_⟩
  · omega
  · omega
  · omega
  · omega

section Place

variable
  {row place : Nat}
  (isRow : row ≤ 8)
  (isPlace : place ≤ 3)
  (lastRow : row = 8 → place = 0)

include isRow isPlace lastRow

/-- The leap years open the rows of four years. -/
theorem isLeapResidue_place (cycle : Int) :
    isLeapResidue (979 + 33 * cycle + 4 * row + place) = true ↔ place = 0 ∧ row ≠ 8 := by
  have residue : (979 + 33 * cycle + 4 * row + place) % 33 = (22 + 4 * row + place : Int) % 33 := by
    omega
  have small : (22 + 4 * row + place : Int) % 33 =
      if 22 + 4 * row + place < 33 then 22 + 4 * row + place else 4 * row + place - 11 := by
    split <;> omega
  rw [isLeapResidue, residue, small]
  simp only [leapResidues, List.contains_eq_mem, decide_eq_true_eq, List.mem_cons,
    List.not_mem_nil, or_false]
  split <;> omega

theorem newYear_place (cycle : Int) :
    newYear (979 + 33 * cycle + 4 * row + place) =
      584102 + 12053 * cycle + 1461 * row + (365 * place + (if place = 0 then 0 else 1 : Nat)) := by
  simp only [newYear]
  split <;> omega

end Place

/-- A day is split off by its place: the first year of a row has 366 days. -/
theorem splitYears_place
    (cycle : Int)
    {row inRow : Nat}
    (isInRow : inRow < 1461)
    (isInCycle : 1461 * row + inRow < 12053) :
    splitYears (584102 + 12053 * cycle + 1461 * row + inRow) =
      if inRow < 366 then (979 + 33 * cycle + 4 * row, inRow)
      else (979 + 33 * cycle + 4 * row + ((inRow - 1) / 365 : Nat), (inRow - 1) % 365) := by
  have cycleFound : (584102 + 12053 * cycle + 1461 * row + inRow - 584102) / 12053 = cycle := by
    omega
  have inCycle :
      ((584102 + 12053 * cycle + 1461 * row + inRow - 584102) % 12053).toNat =
        1461 * row + inRow := by
    omega
  have rowFound : ((1461 * row + inRow : Nat) : Int) / 1461 = row := by omega
  have inRowFound : (1461 * row + inRow) % 1461 = inRow := by omega
  simp only [splitYears, cycleFound, inCycle, inRowFound, rowFound]

/-- The days of a year are those from its first one on, and are split off as such. -/
theorem splitYears_newYear
    (year : Int)
    {position : Nat}
    (inYear : position < yearLength year) :
    splitYears (newYear year + position) = (year, position) := by
  obtain ⟨cycle, row, place, isRow, isPlace, lastRow, rfl⟩ := exists_place year
  have leap := isLeapResidue_place isRow isPlace lastRow cycle
  have bound : position < 366 ∧ (position = 365 → place = 0 ∧ row ≠ 8) := by
    unfold yearLength at inYear
    split at inYear
    · exact ⟨inYear, fun _ => leap.1 ‹_›⟩
    · omega
  clear leap inYear
  obtain ⟨inLongYear, lastDay⟩ := bound
  -- The long year of a row comes first, and the other years start one day later for it.
  by_cases opens : place = 0
  · have first : newYear (979 + 33 * cycle + 4 * row + place) + position =
        584102 + 12053 * cycle + 1461 * row + (position : Nat) := by
      rw [newYear_place isRow isPlace lastRow, if_pos opens]
      omega
    rw [first, splitYears_place cycle (by omega) (by omega), if_pos inLongYear, opens]
    simp
  · have later : newYear (979 + 33 * cycle + 4 * row + place) + position =
        584102 + 12053 * cycle + 1461 * row + (365 * place + 1 + position : Nat) := by
      rw [newYear_place isRow isPlace lastRow, if_neg opens]
      omega
    have placeFound : (365 * place + 1 + position - 1) / 365 = place := by omega
    have positionFound : (365 * place + 1 + position - 1) % 365 = position := by omega
    rw [later, splitYears_place cycle (by omega) (by omega), if_neg (by omega), placeFound,
      positionFound]

/-- Every day lies in the year that it is split into. -/
theorem newYear_splitYears (number : Int) :
    newYear (splitYears number).1 + (splitYears number).2 = number ∧
      (splitYears number).2 < yearLength (splitYears number).1 := by
  obtain ⟨cycle, row, inRow, isRow, isInRow, isInCycle, rfl⟩ :
      ∃ cycle : Int, ∃ row inRow : Nat, row ≤ 8 ∧ inRow < 1461 ∧ 1461 * row + inRow < 12053 ∧
        number = 584102 + 12053 * cycle + 1461 * row + inRow := by
    refine ⟨(number - 584102) / 12053, ((number - 584102) % 12053).toNat / 1461,
      ((number - 584102) % 12053).toNat % 1461, ?_, ?_, ?_, ?_⟩
    · omega
    · omega
    · omega
    · omega
  rw [splitYears_place cycle isInRow isInCycle]
  split
  · have lastRow : row = 8 → 0 = 0 := fun _ => rfl
    have first := newYear_place isRow (Nat.zero_le 3) lastRow cycle
    have leap := isLeapResidue_place isRow (Nat.zero_le 3) lastRow cycle
    simp only [Int.natCast_zero, Int.add_zero] at first leap
    refine ⟨by simp only [first, if_true]; omega, ?_⟩
    unfold yearLength
    split
    · assumption
    · rename_i notLeap
      have isLast : row = 8 := Decidable.byContradiction fun earlier =>
        notLeap (leap.2 ⟨trivial, earlier⟩)
      omega
  · have isPlace : (inRow - 1) / 365 ≤ 3 := by omega
    have lastRow : row = 8 → (inRow - 1) / 365 = 0 := by omega
    have later := newYear_place isRow isPlace lastRow cycle
    rw [if_neg (by omega)] at later
    refine ⟨by simp only [later]; omega, ?_⟩
    exact Nat.lt_of_lt_of_le (Nat.mod_lt _ (by decide)) (le_yearLength _)

/-! ### Dates and days -/

/-- The calendar's dates, by the ranges of their parts. -/
theorem flaw?_eq_none_iff
    (year month day : Int) :
    flaw? year month day = none ↔
      (1 ≤ year ∧ year ≤ lastYear) ∧ (1 ≤ month ∧ month ≤ 12) ∧
        (1 ≤ day ∧ day ≤ YearPlan.lengthOf (monthLengths year) month.toNat) := by
  unfold flaw?
  split
  · simp [*]
  · split
    · simp [*]
    · split <;> simp_all

/-- The day of a date lies at a position of its year, at which the date is found. -/
theorem exists_position
    {year month day : Int}
    (noFlaw : flaw? year month day = none) :
    ∃ position : Nat,
      newYear year + YearPlan.daysBefore (monthLengths year) month.toNat + day - 1 =
          newYear year + position ∧
        position < yearLength year ∧
        YearPlan.locate (monthLengths year) 1 position = (month.toNat, day.toNat) := by
  obtain ⟨-, isMonth, isDay⟩ := (flaw?_eq_none_iff year month day).1 noFlaw
  have monthFound : 1 ≤ month.toNat ∧ month.toNat ≤ 12 := by omega
  have dayFound :
      1 ≤ day.toNat ∧ day.toNat ≤ YearPlan.lengthOf (monthLengths year) month.toNat := by
    omega
  obtain ⟨position, number, inYear, located⟩ := YearPlan.exists_position monthFound dayFound
  rw [total_monthLengths] at inYear
  exact ⟨position, by omega, inYear, located⟩

/-- Every date that the calendar has is the date of a day. -/
theorem exists_toDay
    {year month day : Int}
    (noFlaw : flaw? year month day = none) :
    ∃ found, toDay year month day = .ok found := by
  obtain ⟨position, number, inYear, -⟩ := exists_position noFlaw
  obtain ⟨⟨firstYear, lastYear⟩, -⟩ := (flaw?_eq_none_iff year month day).1 noFlaw
  have bound := yearLength_le year
  have inside : 1 ≤ newYear year + position ∧ newYear year + position ≤ lastDayNumber := by
    simp only [newYear, lastDayNumber, Solar.lastYear] at *
    omega
  rw [toDay, noFlaw, number, Day.ofNumber?, dif_pos inside]
  exact ⟨_, rfl⟩

/-- The day of a date has the fields of that date. -/
theorem fields?_toDay
    {year month day : Int}
    {found : Day}
    (isDay : toDay year month day = .ok found) :
    flaw? year month day = none ∧
      fields? found = some ⟨year.toNat, month.toNat, day.toNat⟩ := by
  unfold toDay at isDay
  split at isDay
  · cases isDay
  · rename_i noFlaw
    obtain ⟨position, number, inYear, located⟩ := exists_position noFlaw
    obtain ⟨isYear, -⟩ := (flaw?_eq_none_iff year month day).1 noFlaw
    rw [number] at isDay
    split at isDay
    · rename_i day isNumber
      cases isDay
      refine ⟨noFlaw, ?_⟩
      simp only [fields?, Day.number_of_ofNumber? isNumber, splitYears_newYear year inYear,
        if_pos isYear, located]
    · cases isDay

/-- The fields of a day are a date that the calendar has. -/
theorem flaw?_fields?
    {found : Day}
    {date : DateFields}
    (isDate : fields? found = some date) :
    flaw? date.year date.month date.day = none := by
  unfold fields? at isDate
  have inYear := (newYear_splitYears found.number).2
  generalize splitYears found.number = place at isDate inYear
  obtain ⟨year, position⟩ := place
  rw [← total_monthLengths] at inYear
  dsimp only at inYear
  obtain ⟨month, day, located, isMonth, inMonth, -⟩ := YearPlan.locate_of_lt_total _ 1 inYear
  simp only [located] at isDate
  split at isDate
  · rename_i isYear
    cases isDate
    have yearFound : ((year.toNat : Nat) : Int) = year := by omega
    have lastMonth : month < 12 := isMonth
    refine (flaw?_eq_none_iff (year.toNat : Int) (1 + month : Nat) (day + 1 : Nat)).2
      ⟨by omega, by omega, by omega, ?_⟩
    rw [yearFound, Int.toNat_natCast, Nat.add_comm 1 month]
    omega
  · cases isDate

/-! ### Weeks -/

/-- Only the last month, which no other follows, has a length that changes. -/
theorem daysBefore_monthLengths
    (year : Int)
    {index : Nat}
    (isMonth : index < 12) :
    YearPlan.daysBefore (monthLengths year) (index + 1) =
      if index ≤ 6 then 31 * index else 186 + 30 * (index - 6) := by
  have split : monthLengths year =
      [31, 31, 31, 31, 31, 31, 30, 30, 30, 30, 30] ++ [if isLeapResidue year then 30 else 29] :=
    rfl
  have inFixed : index ≤ [31, 31, 31, 31, 31, 31, 30, 30, 30, 30, 30].length :=
    Nat.le_of_lt_succ isMonth
  have table : ∀ index < 12,
      YearPlan.total ([31, 31, 31, 31, 31, 31, 30, 30, 30, 30, 30].take index) =
        if index ≤ 6 then 31 * index else 186 + 30 * (index - 6) := by
    decide
  rw [YearPlan.daysBefore, Nat.add_sub_cancel, split, List.take_append_of_le_length inFixed]
  exact table index isMonth

/-- The number of a date in its year is its position, counted from one. -/
theorem dayOfYear_eq
    (year day : Int)
    (month : Nat)
    (isMonth : 1 ≤ month ∧ month ≤ 12) :
    dayOfYear month day = YearPlan.daysBefore (monthLengths year) month + day := by
  obtain ⟨index, rfl⟩ : ∃ index, month = index + 1 := ⟨month - 1, by omega⟩
  rw [daysBefore_monthLengths year isMonth.2, dayOfYear]
  split <;> split <;> omega

/-- A year has at most fifty-four weeks, so that a week has at most two digits. -/
theorem week_le
    {found : Day}
    {date : DateFields}
    (isDate : fields? found = some date) :
    week date ≤ 54 := by
  obtain ⟨-, isMonth, firstDay, lastDay⟩ := (flaw?_eq_none_iff _ _ _).1 (flaw?_fields? isDate)
  have position := dayOfYear_eq date.year date.day date.month (by omega)
  obtain ⟨index, monthFound⟩ : ∃ index, date.month = index + 1 := ⟨date.month - 1, by omega⟩
  rw [Int.toNat_natCast] at lastDay
  have inYear := YearPlan.daysBefore_add_lengthOf_le (monthLengths date.year) index
  rw [total_monthLengths, ← monthFound] at inYear
  have bound := yearLength_le date.year
  simp only [week]
  omega

end Daybook.Solar
