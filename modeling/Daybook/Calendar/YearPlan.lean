/-!
Contract: years as sequences of months of given lengths.

Owns:
- the dates of a calendar as three numbers;
- the position of a date inside its year, and the date at a position.

Does not own: how long the months of a calendar are, or where a year begins.
-/

namespace Daybook

/-- The year, the month and the day of the month of a date. -/
structure DateFields where
  year : Nat
  month : Nat
  day : Nat
  deriving DecidableEq, Repr

/-- The part of a date that its calendar does not have. -/
inductive DateFlaw where
  | year
  | month
  | day
  deriving DecidableEq, Repr

namespace YearPlan

def total : List Nat → Nat
  | [] => 0
  | length :: rest => length + total rest

/-- The number of days in the months before the given one, which is counted from one. -/
def daysBefore (lengths : List Nat) (month : Nat) : Nat :=
  total (lengths.take (month - 1))

/-- The length of a month, which is counted from one; zero if the year has no such month. -/
def lengthOf (lengths : List Nat) (month : Nat) : Nat :=
  lengths.getD (month - 1) 0

/-- The month and the day of the month at a position, which is counted from zero, in a year whose
first month has the given number. -/
def locate (lengths : List Nat) (month : Nat) (position : Nat) : Nat × Nat :=
  match lengths with
  | [] => (month, position + 1)
  | length :: rest =>
    if position < length then (month, position + 1)
    else locate rest (month + 1) (position - length)

/-- A date's position in its year leads back to its month and day. -/
theorem locate_daysBefore
    (lengths : List Nat)
    (first month day : Nat)
    (inYear : month < lengths.length)
    (inMonth : day < lengthOf lengths (month + 1)) :
    locate lengths first (daysBefore lengths (month + 1) + day) = (first + month, day + 1) := by
  induction lengths generalizing first month with
  | nil => simp at inYear
  | cons length rest inductionHypothesis =>
    cases month with
    | zero =>
      have short : day < length := by simpa [lengthOf] using inMonth
      simp [locate, daysBefore, total, short]
    | succ month =>
      have later : ¬ length + total (rest.take month) + day < length := by omega
      have remaining :
          length + total (rest.take month) + day - length = total (rest.take month) + day := by omega
      have located := inductionHypothesis (first + 1) month
        (by simpa using inYear)
        (by simpa [lengthOf] using inMonth)
      simp only [daysBefore, Nat.add_sub_cancel] at located
      simp only [locate, daysBefore, Nat.add_sub_cancel, List.take_succ_cons, total,
        later, if_false, remaining, located]
      simp only [Prod.mk.injEq, and_true]
      omega

end YearPlan

end Daybook
