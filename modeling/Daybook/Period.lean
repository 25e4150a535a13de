import Daybook.DateParts

/-!
Contract: the periods for which notes are kept.

Owns: the type `Period`, its names, the period of a grain, and the choice of a period by its name.

Does not own: the folders and patterns of the notes of a period.
-/

namespace Daybook

/-- The periods of notes. -/
inductive Period where
  | daily
  | weekly
  | monthly
  | quarterly
  | yearly
  deriving DecidableEq, Repr

namespace Period

/-- All periods, from the shortest to the longest. -/
def all : List Period := [daily, weekly, monthly, quarterly, yearly]

def name : Period → Text
  | daily => "daily".toList
  | weekly => "weekly".toList
  | monthly => "monthly".toList
  | quarterly => "quarterly".toList
  | yearly => "yearly".toList

/-- The period of the notes for a date of the given grain. -/
def ofGrain : Grain → Period
  | .day => daily
  | .week => weekly
  | .quarter => quarterly
  | .month => monthly
  | .year => yearly

/-- The period that a value names exactly. -/
def ofValue? : Value → Option Period
  | .text given => all.find? fun period => period.name == given
  | _ => none

/-- The period that a value names, or the fault that it names none. -/
def ofValue (given : Value) : Except Fault Period :=
  match ofValue? given with
  | some period => .ok period
  | none => Fault.raise (.unknownPeriod given)

theorem mem_all (period : Period) : period ∈ all := by
  cases period <;> simp [all]

theorem ofValue?_name (period : Period) : ofValue? (.text period.name) = some period := by
  cases period <;> decide

end Period

end Daybook
