import Daybook.Calendar.Source
import Daybook.Path.Folder
import Daybook.Pattern.Preparation

/-!
Contract: the path of the note for a date.

Owns:
- the pattern that counts where the given one is blank, and the numbers that it takes to choose it;
- the text of a date in a generic pattern;
- the whole path of a note, and the test for one.

Does not own: where patterns and folders are set.
-/

namespace Daybook.Path

/-- The system that a value chooses, or the fault that it chooses none. -/
def chooseSystem (given : Value) : Except Fault CalendarSystem :=
  match CalendarSystem.ofValue? given with
  | some system => .ok system
  | none => Fault.raise (.unknownSystem given)

/-- A base folder that has to be given. -/
def givenBase (base : Option Text) : Except Fault Text :=
  match base with
  | some text => .ok text
  | none => .error .textAbsent

/-- The given pattern, or the one that suits the parts if it is missing or blank. -/
def effectivePattern (pattern : Option Text) (parts : DateParts) : Text :=
  match pattern with
  | some text => if Text.isBlankText text then parts.defaultPattern else text
  | none => parts.defaultPattern

/-- Whether no pattern is given: it is missing or blank. -/
def isUnset (pattern : Option Text) : Bool :=
  pattern.all Text.isBlankText

/-- Chooses the pattern that counts.  Where none is given, the choice is noted together with the
parts, so that all their numbers have to be written. -/
def choosePattern (pattern : Option Text) (parts : DateParts) : Except Fault Text := do
  Fault.writing (if isUnset pattern then parts.numbers else [])
  pure (effectivePattern pattern parts)

/-- The text of the date that the parts stand for, in a generic pattern. -/
def dateText
    (system : CalendarSystem)
    (calendar : Option Calendar)
    (pattern : Option Text)
    (parts : DateParts) :
    Consultation Text := do
  let chosen ← Consultation.ofExcept (choosePattern pattern parts)
  let calendar ← Calendar.orShared system calendar
  let moment ← calendar.moment parts
  let prepared ← Consultation.ofExcept (Pattern.prepared system parts.quarter chosen)
  moment.render prepared

/-- The path of a note: its base folder, the text of its date without leading separators, and the
extension. -/
def assemble (base dateText : Text) : Text :=
  withExtension (inFolder (cleanBase base) (dateText.dropWhile isSeparator))

/-- The path of the note for the date that the parts stand for. -/
def notePath
    (system : CalendarSystem)
    (calendar : Option Calendar)
    (base : Text)
    (pattern : Option Text)
    (parts : DateParts) :
    Consultation Text := do
  pure (assemble base (← dateText system calendar pattern parts))

/-- Whether a path is that of the note for the date that the parts stand for. -/
def isNotePath
    (system : CalendarSystem)
    (calendar : Option Calendar)
    (base : Text)
    (pattern : Option Text)
    (parts : DateParts)
    (path : Text) :
    Consultation Bool := do
  pure (path == (← notePath system calendar base pattern parts))

end Daybook.Path
