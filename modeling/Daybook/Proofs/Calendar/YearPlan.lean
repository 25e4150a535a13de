import Daybook.Calendar.YearPlan

/-!
Contract: positions inside a year, and the dates at them.

Owns:
- the month and day at a position, as the one date that lies there;
- the bound of a date's position by the length of the year.

Does not own: the lengths of the months of any calendar.
-/

namespace Daybook.YearPlan

theorem daysBefore_succ
    (length : Nat)
    (rest : List Nat)
    (month : Nat) :
    daysBefore (length :: rest) (month + 2) = length + daysBefore rest (month + 1) := by
  show total ((length :: rest).take (month + 1)) = length + total (rest.take month)
  rw [List.take_succ_cons, total]

/-- A month ends no later than its year. -/
theorem daysBefore_add_lengthOf_le
    (lengths : List Nat)
    (month : Nat) :
    daysBefore lengths (month + 1) + lengthOf lengths (month + 1) ≤ total lengths := by
  induction lengths generalizing month with
  | nil => exact Nat.le_of_eq (by cases month <;> rfl)
  | cons length rest inductionHypothesis =>
    cases month with
    | zero =>
      show 0 + length ≤ total (length :: rest)
      rw [total]
      omega
    | succ month =>
      have later : lengthOf (length :: rest) (month + 2) = lengthOf rest (month + 1) := rfl
      have bound := inductionHypothesis month
      rw [daysBefore_succ, later, total]
      omega

/-- No month is longer than the bound of all of them. -/
theorem lengthOf_le
    {lengths : List Nat}
    {bound : Nat}
    (all : ∀ length ∈ lengths, length ≤ bound)
    (month : Nat) :
    lengthOf lengths month ≤ bound := by
  unfold lengthOf
  rw [List.getD_eq_getElem?_getD]
  cases found : lengths[month - 1]? with
  | none => exact Nat.zero_le bound
  | some length => exact all length (List.mem_of_getElem? found)

/-- The date at a position of the year is the only one that lies there. -/
theorem locate_of_lt_total
    (lengths : List Nat)
    (first : Nat)
    {position : Nat}
    (inYear : position < total lengths) :
    ∃ month day,
      locate lengths first position = (first + month, day + 1) ∧
        month < lengths.length ∧
        day < lengthOf lengths (month + 1) ∧
        daysBefore lengths (month + 1) + day = position := by
  induction lengths generalizing first position with
  | nil => exact absurd inYear (Nat.not_lt_zero position)
  | cons length rest inductionHypothesis =>
    by_cases inMonth : position < length
    · refine ⟨0, position, ?_, Nat.succ_pos _, inMonth, Nat.zero_add position⟩
      rw [locate, if_pos inMonth]
      rfl
    · have inRest : position - length < total rest := by
        rw [total] at inYear
        omega
      obtain ⟨month, day, located, isMonth, inLength, there⟩ := inductionHypothesis (first + 1) inRest
      refine ⟨month + 1, day, ?_, Nat.succ_lt_succ isMonth, inLength, ?_⟩
      · rw [locate, if_neg inMonth, located, Nat.add_assoc, Nat.add_comm 1]
      · rw [daysBefore_succ]
        omega

/-- A date has a position inside its year, at which it is found. -/
theorem exists_position
    {lengths : List Nat}
    {month day : Nat}
    (isMonth : 1 ≤ month ∧ month ≤ lengths.length)
    (isDay : 1 ≤ day ∧ day ≤ lengthOf lengths month) :
    ∃ position,
      daysBefore lengths month + day = position + 1 ∧
        position < total lengths ∧
        locate lengths 1 position = (month, day) := by
  obtain ⟨month, rfl⟩ : ∃ index, month = index + 1 := ⟨month - 1, by omega⟩
  obtain ⟨day, rfl⟩ : ∃ index, day = index + 1 := ⟨day - 1, by omega⟩
  have inYear := daysBefore_add_lengthOf_le lengths month
  refine ⟨daysBefore lengths (month + 1) + day, rfl, by omega, ?_⟩
  rw [locate_daysBefore lengths 1 month day isMonth.2 isDay.2, Nat.add_comm 1]

end Daybook.YearPlan
