import Daybook.CommandLine.Gathering
import Daybook.DateParts

/-!
Contract: the commands there are, and how they are given on a command line.

Owns:
- the three commands and the switches of each;
- the switches for the locale, which come before the command;
- reading a whole command line.

Does not own: carrying a command out.
-/

namespace Daybook.CommandLine

/-- What a command line can ask for.  Dates are records, as the switches give them, and calendar
systems are values; whether they stand for anything is found out when the command is carried out. -/
inductive Command where
  | dateText (pattern : Option Text) (date : Record) (system : Value)
  | notePath (base pattern : Option Text) (date : Record) (system : Value)
  | dateOf (base : Option Text) (path : Text)
  deriving Repr

/-- The switches before a command: whether digits are Persian, and the dialect. -/
structure Leading where
  persianDigits : Bool
  dialect : Value
  deriving Repr

namespace Leading

/-- What counts without any switch before the command: the standard locale. -/
def standard : Leading :=
  ⟨Locale.standard.persianDigits, .text Locale.standard.dialect.name⟩

end Leading

/-- A command and the switches before it. -/
structure Invocation where
  leading : Leading
  command : Command
  deriving Repr

/-- A switch with one long name that takes a value. -/
def valueSwitch (name : String) : Switch :=
  ⟨[name.toList], true⟩

def verboseSwitch : Switch := ⟨["-v".toList, "--verbose".toList], false⟩

def digitsSwitch : Switch := ⟨["--persian-digits".toList], false⟩

def dialectSwitch : Switch := valueSwitch "--dialect"

def yearSwitch : Switch := valueSwitch "--year"

def monthSwitch : Switch := valueSwitch "--month"

def daySwitch : Switch := valueSwitch "--day"

def weekSwitch : Switch := valueSwitch "--week"

def quarterSwitch : Switch := valueSwitch "--quarter"

def calendarSwitch : Switch := valueSwitch "--calendar"

def baseSwitch : Switch := valueSwitch "--base"

/-- The switch for a pattern, which is taken and not used. -/
def patternSwitch : Switch := valueSwitch "--pattern"

/-- The switches before the command. -/
def leadingSwitches : List Switch :=
  [helpSwitch, verboseSwitch, digitsSwitch, dialectSwitch]

def dateSwitches : List Switch :=
  [helpSwitch, yearSwitch, monthSwitch, daySwitch, weekSwitch, quarterSwitch, calendarSwitch]

def pathSwitches : List Switch :=
  [helpSwitch, baseSwitch, patternSwitch]

/-- The value of a switch that was used without one. -/
def noValue : Value := .list []

/-- The last of the values that a switch was given, all of which have to be read; a value that was
left out needs no reading.  Nothing if the switch was not used. -/
def lastOf (read? : Text → Option Value) (values : List (Option Text)) :
    Except Ending (Option Value) :=
  let readHeld := fun (held : Option Text) =>
    match held with
    | some text => read? text
    | none => some noValue
  match values.mapM readHeld with
  | some found => .ok found.getLast?
  | none => .error .misuse

def number? (text : Text) : Option Value :=
  match Text.readInt text with
  | .ok number => some (.int number)
  | .error _ => none

/-- The name of a calendar system on the command line; no other spellings are taken there. -/
def system? (text : Text) : Option Value :=
  if [CalendarSystem.solar.name, CalendarSystem.gregorian.name].contains text then
    some (.text text)
  else none

def dialect? (text : Text) : Option Value :=
  (Dialect.ofName? text).map fun dialect => .text dialect.name

/-- The record of a date and its calendar system, as switches give them.  The year is needed, and
day, week and quarter exclude each other. -/
def readDate (gathered : Gathered) : Except Ending (Record × Value) := do
  let year ← lastOf number? (gathered.valuesOf yearSwitch)
  let month ← lastOf number? (gathered.valuesOf monthSwitch)
  let day ← lastOf number? (gathered.valuesOf daySwitch)
  let week ← lastOf number? (gathered.valuesOf weekSwitch)
  let quarter ← lastOf number? (gathered.valuesOf quarterSwitch)
  let system ← lastOf system? (gathered.valuesOf calendarSwitch)
  let exclusive := [day, week, quarter].filter Option.isSome
  match year with
  | none => .error .misuse
  | some year =>
    if exclusive.length ≤ 1 then
      pure
        ([(DateParts.yearName, year),
          (DateParts.monthName, month.getD (.int 1)),
          (DateParts.dayName, day.getD .null),
          (DateParts.weekName, week.getD .null),
          (DateParts.quarterName, quarter.getD .null)],
        system.getD (.text CalendarSystem.solar.name))
    else .error .misuse

def readCommand (name : Text) (line : List Text) : Except Ending Command := do
  if name = "format".toList then
    let gathered ← gatherExactly dateSwitches 1 line
    let (date, system) ← readDate gathered
    pure (.dateText (gathered.operand 0) date system)
  else if name = "path".toList then
    let gathered ← gatherExactly dateSwitches 2 line
    let (date, system) ← readDate gathered
    pure (.notePath (gathered.operand 0) (gathered.operand 1) date system)
  else if name = "extract".toList then
    let gathered ← gatherExactly pathSwitches 1 line
    let base := ((gathered.valuesOf baseSwitch).getLast?).getD (some [])
    pure (.dateOf base ((gathered.operand 0).getD []))
  else .error .misuse

def Leading.withDialect (leading : Leading) (held : Option Text) : Except Ending Leading :=
  match held with
  | none => .ok { leading with dialect := noValue }
  | some name =>
    match dialect? name with
    | some dialect => .ok { leading with dialect := dialect }
    | none => .error .misuse

/-- Takes in words before the command; one that is no switch is misuse here. -/
def Leading.takeIn (leading : Leading) : List Word → Except Ending Leading
  | [] => .ok leading
  | .switch switch :: rest =>
    if switch = helpSwitch then .error .help
    else if switch = digitsSwitch then takeIn { leading with persianDigits := true } rest
    else takeIn leading rest
  | .attached _ value :: rest => do takeIn (← leading.withDialect (heldValue value)) rest
  | _ => .error .misuse

/-- Reads a command line from its first word on: switches, and then the command with all that
follows it. -/
def readFrom (leading : Leading) : List Text → Except Ending Invocation
  | [] => .error .misuse
  | [word] =>
    match classify? leadingSwitches word with
    | some [.plain name] => do pure ⟨leading, ← readCommand name []⟩
    | some words => do
      let _ ← leading.takeIn words
      .error .misuse
    | none => .error .misuse
  | word :: next :: rest =>
    if word = separatorText then .error .misuse
    else
      match classify? leadingSwitches word with
      | some [.plain name] => do pure ⟨leading, ← readCommand name (next :: rest)⟩
      | some words =>
        if words.getLast? = some (.switch dialectSwitch) then do
          let prepared ← leading.takeIn words.dropLast
          if next = separatorText then .error .misuse
          else
            match classify? leadingSwitches next with
            | some [.plain name] => readFrom (← prepared.withDialect (some name)) rest
            | _ => .error .misuse
        else do readFrom (← leading.takeIn words) (next :: rest)
      | none => .error .misuse

def read (line : List Text) : Except Ending Invocation :=
  readFrom .standard line

end Daybook.CommandLine
