import Daybook.Path.Recovery
import Daybook.Path.Writing
import Daybook.Settings.Checking

/-!
Contract: the notes of a period as the settings describe them.

Owns: the path of a note, the date of a note's path, and the test for the note of a date.

Does not own: the form of paths, or the validity of settings.
-/

namespace Daybook.Note

/-- The path of the note of a period for a date, where notes of that period are kept. -/
def path
    (settings : Settings)
    (calendar : Option Calendar)
    (period : Period)
    (parts : DateParts) :
    Consultation Text := do
  if settings.isEnabled period then
    let system ← Consultation.ofExcept settings.system
    let folder ← Consultation.ofExcept (settings.folder period)
    let pattern ← Consultation.ofExcept (settings.pattern period)
    Path.notePath system calendar folder pattern parts
  else
    Consultation.ofExcept (.error .quarterlyNotesOff)

/-- The date that the path of a period's note shows. -/
def date?
    (settings : Settings)
    (period : Period)
    (file : Text) :
    Except Fault (Option DateParts) := do
  let _ ← settings.system
  Path.dateOf? (← settings.folder period) file

/-- Whether a path is that of the note of a period for a date; no path is where notes of that period
are not kept. -/
def isPath
    (settings : Settings)
    (calendar : Option Calendar)
    (period : Period)
    (parts : DateParts)
    (file : Text) :
    Consultation Bool := do
  if settings.isEnabled period then
    let system ← Consultation.ofExcept settings.system
    let folder ← Consultation.ofExcept (settings.folder period)
    let pattern ← Consultation.ofExcept (settings.pattern period)
    Path.isNotePath system calendar folder pattern parts file
  else
    pure false

def enabledPeriods (settings : Settings) : List Period :=
  Period.all.filter settings.isEnabled

end Daybook.Note
