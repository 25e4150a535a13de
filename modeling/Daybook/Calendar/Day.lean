/-!
Contract: single days, independent of any calendar.

Owns:
- the type `Day`, the days that can be represented;
- moving a day by a number of days;
- the day of the week.

Does not own: years and months.
-/

namespace Daybook

/-- The number of the last day that can be represented. -/
def lastDayNumber : Nat := 3652059

/-- A day, counted from the first day of the first year, which has the number one.  The days run to
the end of the year 9999. -/
structure Day where
  number : Nat
  first_le : 1 ≤ number
  le_last : number ≤ lastDayNumber
  deriving DecidableEq, Repr

namespace Day

theorem ext
    {left right : Day}
    (sameNumber : left.number = right.number) :
    left = right := by
  cases left
  cases right
  cases sameNumber
  rfl

/-- The day with the given number, if there is one. -/
def ofNumber? (number : Int) : Option Day :=
  if inside : 1 ≤ number ∧ number ≤ lastDayNumber then
    some ⟨number.toNat, by omega, by omega⟩
  else
    none

/-- The day that many days later, or earlier for a negative count, if there is one. -/
def shift? (day : Day) (count : Int) : Option Day :=
  ofNumber? (day.number + count)

/-- The day of the week, counted from Saturday as zero. -/
def weekday (day : Day) : Nat :=
  (day.number + 1) % 7

/-- The number of a day that was found by its number. -/
theorem number_of_ofNumber?
    {number : Int}
    {day : Day}
    (found : ofNumber? number = some day) :
    (day.number : Int) = number := by
  unfold ofNumber? at found
  split at found
  · cases found
    exact Int.toNat_of_nonneg (by omega)
  · cases found

/-- Every day is found by its number. -/
@[simp] theorem ofNumber?_number (day : Day) : ofNumber? day.number = some day := by
  have bounds : 1 ≤ (day.number : Int) ∧ (day.number : Int) ≤ lastDayNumber :=
    ⟨by have := day.first_le; omega, by have := day.le_last; omega⟩
  simp only [ofNumber?, bounds, and_self, dite_true]
  rfl

end Day

end Daybook
