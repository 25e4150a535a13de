import Daybook.Value

/-!
Contract: the two calendar systems and the spellings that name them.

Owns: the type `CalendarSystem`, its names, and the choice of a system by a value.

Does not own: the arithmetic of either calendar, or the report of an unknown spelling.
-/

namespace Daybook

/-- The calendars that notes can be dated in. -/
inductive CalendarSystem where
  | solar
  | gregorian
  deriving DecidableEq, Repr

namespace CalendarSystem

def name : CalendarSystem → Text
  | solar => "solar".toList
  | gregorian => "gregorian".toList

/-- All spellings of the systems, in small letters. -/
def spellings : List (Text × CalendarSystem) :=
  [("solar".toList, solar),
   ("persian".toList, solar),
   ("jalali".toList, solar),
   ("gregorian".toList, gregorian),
   ("georgian".toList, gregorian)]

/-- The system that a value chooses: a spelling, whatever its case and the blanks around it, or a
truth value that says whether the calendar is the solar one. -/
def ofValue? : Value → Option CalendarSystem
  | .bool isSolar => some (if isSolar then solar else gregorian)
  | .text spelling => List.lookup ((Text.trim spelling).map Text.toSmall) spellings
  | _ => none

theorem ofValue?_name (system : CalendarSystem) :
    ofValue? (.text system.name) = some system := by
  cases system <;> decide

end CalendarSystem

end Daybook
