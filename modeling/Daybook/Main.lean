import Daybook.Session.Request
import Std.Time.Zoned

/-!
Contract: the command line program.

Owns: reading the clock, and printing the report of a command line.

Does not own: what a command line means.
-/

namespace Daybook.Main

def usage : String :=
  "usage: daybook [-v] [--persian-digits] [--dialect DIALECT] COMMAND\n" ++
  "  format PATTERN --year N [--month N] [--day N | --week N | --quarter N] [--calendar NAME]\n" ++
  "  path BASE PATTERN --year N [--month N] [--day N | --week N | --quarter N] [--calendar NAME]\n" ++
  "  extract PATH [--base BASE]"

/-- The number of the day from which the clock counts. -/
def clockStart : Int := 719163

def today : IO Day := do
  let date ← Std.Time.PlainDate.now
  match Day.ofNumber? (clockStart + date.toEpochDay.val) with
  | some day => pure day
  | none => throw (IO.userError "the clock shows a day that cannot be represented")

/-- Prints a text on its own line, among the errors. -/
def complain (text : Text) : IO Unit :=
  IO.eprintln (String.ofList text)

/-- Prints a report, and answers with the number that it ends with. -/
def publish (report : CommandLine.Report) : IO UInt32 := do
  IO.print (String.ofList report.output)
  report.warnings.forM complain
  report.complaint.forM complain
  pure report.exit.toUInt32

def carryOut (line : List Text) : IO UInt32 := do
  match CommandLine.read line with
  | .error ending => do
    IO.eprintln usage
    publish (.ofEnding ending)
  | .ok _ => do
    let session := Session.start (← today)
    match (session.runLine line).1 with
    | .ok report => publish report
    | .error fault => do
      complain (fault.message.getD "a number or a day is out of range".toList)
      pure 1

end Daybook.Main

def main (arguments : List String) : IO UInt32 :=
  Daybook.Main.carryOut (arguments.map String.toList)
