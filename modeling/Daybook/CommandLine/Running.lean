import Daybook.CommandLine.Invocation
import Daybook.Path.Recovery
import Daybook.Path.Writing
import Daybook.Settings.LocaleChoice

/-!
Contract: what the commands of the command line do.

Owns:
- the report of a command: what it prints, its warnings, and the number it ends with;
- the line that a found date is printed as;
- the locale that a command line chooses;
- the report of a command line that is not carried out.

Does not own: reading a command line, or keeping the locale that it chooses.
-/

namespace Daybook.CommandLine

/-- What a command line comes to: the number it ends with, the text it prints, its warnings, and the
complaint about a date that there is not. -/
structure Report where
  exit : Nat
  output : Text
  warnings : List Text
  complaint : Option Text
  deriving DecidableEq, Repr

namespace Report

/-- A report of success, with one line of output. -/
def printed (line : Text) : Report :=
  ⟨0, line ++ ['\n'], [], none⟩

def noDate (path : Text) : Report :=
  ⟨1, [], ["WARNING datepath: datepath: no date found in ".toList ++ path], none⟩

def refused (reason : Text) : Report :=
  ⟨2, [], [], some ("datepath: error: ".toList ++ reason)⟩

def ofEnding : Ending → Report
  | .misuse => ⟨2, [], [], none⟩
  | .help => ⟨0, [], [], none⟩

end Report

def fieldText (field : Text × Value) : Text :=
  '"' :: field.1 ++ "\": ".toList ++ field.2.shown

/-- The line for the parts of a date: their names and numbers in braces. -/
def partsLine (parts : DateParts) : Text :=
  '\x7b' :: ", ".toList.intercalate (parts.toRecord.map fieldText) ++ ['\x7d']

namespace Command

/-- Carries a command out; every fault is still a fault.  The date is looked at first, then the base
folder, then the calendar system. -/
def perform : Command → Consultation Report
  | dateText pattern date system => do
    let parts ← Consultation.ofExcept (DateParts.ofRecord date)
    let system ← Consultation.ofExcept (Path.chooseSystem system)
    pure (.printed (← Path.dateText system none pattern parts))
  | notePath base pattern date system => do
    let parts ← Consultation.ofExcept (DateParts.ofRecord date)
    let base ← Consultation.ofExcept (Path.givenBase base)
    let system ← Consultation.ofExcept (Path.chooseSystem system)
    pure (.printed (← Path.notePath system none base pattern parts))
  | dateOf base path => do
    let base ← Consultation.ofExcept (Path.givenBase base)
    match ← Consultation.ofExcept (Path.dateOf? base path) with
    | some parts => pure (.printed (partsLine parts))
    | none => pure (.noDate path)

/-- What a fault in a command comes to: a date that the calendar does not have is reported, and any
other fault stays one. -/
def reportFault (fault : Fault) : Except Fault Report :=
  match fault.category with
  | .date => .ok (.refused (fault.message.getD []))
  | _ => .error fault

/-- Carries a command out and reports on it. -/
def report (command : Command) : Consultation Report :=
  command.perform.orElse reportFault

end Command

def Invocation.locale (invocation : Invocation) : Except Fault Locale :=
  Locale.ofValues (.bool invocation.leading.persianDigits) invocation.leading.dialect

end Daybook.CommandLine
