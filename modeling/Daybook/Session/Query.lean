import Daybook.Note
import Daybook.Pattern.Preparation
import Daybook.Session.Choice
import Daybook.Session.View

/-!
Contract: the requests that only ask.

Owns:
- the type `Query`, with everything that can be asked;
- the work that each query asks for; stored settings are read and never changed, and whatever else
  the answer depends on is consulted.

Does not own: requests that choose a locale, move the clock, or store settings.
-/

namespace Daybook

/-- The date text that a query is about: the pattern and the parts of the date, and the calendar to
take them in. -/
structure DateOrder where
  pattern : Option Text
  parts : DateParts
  system : Value
  calendar : Option CalendarChoice
  deriving Repr

/-- Everything that can be asked. -/
inductive Query where
  | system (given : Value)
  | parts (parts : DateParts)
  | partsOf (given : Value)
  /-- A pattern prepared for a calendar system, with the quarter put in if that is wanted. -/
  | prepared (pattern : Text) (system : Value) (withQuarter : Bool) (quarter : Option Int)
  /-- A text with one token replaced where it stands alone. -/
  | replaced (token replacement text : Text)
  /-- A text with the quarter put in. -/
  | quarterPut (quarter : Int) (text : Text)
  /-- A text after the marking step of the given name. -/
  | marked (step text : Text)
  /-- The names of the marking steps for tokens of several letters. -/
  | markingSteps
  | date (choice : DateChoice) (patterns : List Text)
  /-- Whether two dates are the same; anything that is not a date differs from one. -/
  | sameDate (left : DateChoice) (right : Option DateChoice)
  | sharedCalendar (system : Value)
  | calendarToday (calendar : CalendarChoice)
  | isLongYear (year : Int)
  | monthLength (year month : Int)
  | dayOfYear (month day : Int)
  | weekday (day : GivenDay)
  | locale
  | digits (text : Text)
  | monthNames
  | dateText (order : DateOrder)
  | notePath (base : Option Text) (order : DateOrder)
  | isNotePath (base : Option Text) (order : DateOrder) (path : Text)
  /-- The path of the note for a date, and what can be read from it again. -/
  | roundTrip (base : Option Text) (order : DateOrder)
  | folder (path : Text)
  | dateOf (base : Option Text) (path : Text)
  | dateIn (text : Text)
  /-- A path without its base folder and its extension. -/
  | insideBase (base : Option Text) (path : Text)
  | cleanBase (base : Option Text)
  /-- The forms of dates that are looked for in paths. -/
  | dateForms
  | settings (name : Option Text)
  | checkSettings (settings : SettingsChoice)
  /-- The names of the settings for the notes of a period. -/
  | periodSettings (period : Value)
  | enabledPeriods (settings : SettingsChoice)
  | periodPath
    (period : Value)
    (parts : DateParts)
    (settings : SettingsChoice)
    (calendar : Option CalendarChoice)
  | periodDate (period : Value) (settings : SettingsChoice) (path : Text)
  | isPeriodPath
    (period : Value)
    (parts : DateParts)
    (settings : SettingsChoice)
    (calendar : Option CalendarChoice)
    (path : Text)
  deriving Repr

namespace Pattern

/-- The name of the marking step for week tokens. -/
def weekStep : Text := "WW".toList

/-- The marking step of the given name. -/
def stepNamed (name : Text) : Except Fault (Text → Text) :=
  if name = weekStep then .ok lowerWeeks
  else
    match solarRules.find? fun rule => rule.token == name with
    | some rule => .ok rule.apply
    | none => .error (.nameAbsent name)

end Pattern

namespace DateOrder

def dateText (order : DateOrder) : Consultation Text := do
  let calendar ← CalendarChoice.resolve? order.calendar
  let system ← Consultation.ofExcept (Path.chooseSystem order.system)
  Path.dateText system calendar order.pattern order.parts

/-- The path of the note for the date that is ordered.  The calendar is looked at before the base
folder, and that before the system. -/
def notePath (order : DateOrder) (base : Option Text) : Consultation Text := do
  let calendar ← CalendarChoice.resolve? order.calendar
  let base ← Consultation.ofExcept (Path.givenBase base)
  let system ← Consultation.ofExcept (Path.chooseSystem order.system)
  Path.notePath system calendar base order.pattern order.parts

def isNotePath (order : DateOrder) (base : Option Text) (path : Text) : Consultation Bool := do
  pure (path == (← order.notePath base))

end DateOrder

namespace Query

/-- The work that a query asks for, with the settings that are stored. -/
def work (store : Store) : Query → Consultation Answer
  | system given => do
    pure (.text (← Consultation.ofExcept (Path.chooseSystem given)).name)
  | parts given => pure (.parts (some given))
  | partsOf given => do
    pure (.parts (some (← Consultation.ofExcept (DateParts.ofValue given))))
  | prepared pattern given withQuarter quarter => do
    let system ← Consultation.ofExcept (Path.chooseSystem given)
    let quarter := if withQuarter then quarter else none
    pure (.text (← Consultation.ofExcept (Pattern.prepared system quarter pattern)))
  | replaced token replacement text =>
    pure (.text (Pattern.replaceStanding token replacement text))
  | quarterPut quarter text => do
    pure (.text (← Consultation.ofExcept (Pattern.quarterPut quarter text)))
  | marked step text => do
    pure (.text ((← Consultation.ofExcept (Pattern.stepNamed step)) text))
  | markingSteps => pure (.texts (Pattern.solarRules.map Pattern.RunRule.token))
  | date choice patterns => do
    let found ← choice.resolve
    let locale ← Consultation.localeFor found.system
    pure (.date (found.view locale patterns))
  | sameDate left right => do
    let left ← left.resolve
    match right with
    | some right => do pure (.sameness (left == (← right.resolve)))
    | none => pure (.sameness false)
  | sharedCalendar given => do
    let system ← Consultation.ofExcept (Path.chooseSystem given)
    Consultation.noteCalendar system
    pure (.calendar system (← Consultation.today))
  | calendarToday choice => do
    match ← choice.resolve with
    | .ofSystem _ today => do pure (.text (← Calendar.clock today).stamp)
    | .echo => Consultation.ofExcept (.error .notDate)
  | isLongYear year => do
    pure (.truth (← Consultation.ofExcept ((Solar.isLongYear year).mapError .solarFlaw)))
  | monthLength year month => do
    pure (.number (← Consultation.ofExcept ((Solar.monthLength year month).mapError .solarFlaw)))
  | dayOfYear month day => pure (.number (Solar.dayOfYear month day))
  | weekday given => do pure (.number (← Consultation.ofExcept given.resolve).weekday)
  | locale => do pure (.locale (← Consultation.locale))
  | digits text => do pure (.text ((← Consultation.locale).digits text))
  | monthNames => do pure (.texts (← Consultation.locale).monthNames)
  | dateText order => do pure (.text (← order.dateText))
  | notePath base order => do pure (.text (← order.notePath base))
  | isNotePath base order path => do pure (.truth (← order.isNotePath base path))
  | roundTrip base order => do
    let path ← order.notePath base
    let base' ← Consultation.ofExcept (Path.givenBase base)
    let shown ← Consultation.ofExcept (Path.dateOf? base' path)
    pure (.roundTrip path (Path.folder path) shown (← order.isNotePath base path))
  | folder path => pure (.text (Path.folder path))
  | dateOf base path => do
    let base ← Consultation.ofExcept (Path.givenBase base)
    pure (.parts (← Consultation.ofExcept (Path.dateOf? base path)))
  | dateIn text => do pure (.parts (← Consultation.ofExcept (Path.recover? text)))
  | insideBase base path => do
    pure (.optionalText (Path.insideBase? (← Consultation.ofExcept (Path.givenBase base)) path))
  | cleanBase base => do
    pure (.text (Path.cleanBase (← Consultation.ofExcept (Path.givenBase base))))
  | dateForms => pure (.forms (Path.dateForms.map fun form => (form.name, form.rank)))
  | settings name => do
    let found ← Consultation.ofExcept (store.findOrStandard name)
    pure (.settings (← Consultation.ofExcept found.view))
  | checkSettings choice => do
    match ← Consultation.ofExcept (choice.resolve store) with
    | .settings found => do
      Consultation.ofExcept found.check
      pure .nothing
    | .value _ => Consultation.ofExcept (.error .notSettings)
  | periodSettings period => do
    let period ← Consultation.ofExcept (Period.ofValue period)
    pure (.texts [Settings.folderName period, Settings.patternName period])
  | enabledPeriods choice => do
    let settings ← Consultation.ofExcept (choice.accept store)
    pure (.texts ((Note.enabledPeriods settings).map Period.name))
  | periodPath period given choice calendar => do
    let period ← Consultation.ofExcept (Period.ofValue period)
    let calendar ← CalendarChoice.resolve? calendar
    let settings ← Consultation.ofExcept (choice.accept store)
    pure (.text (← Note.path settings calendar period given))
  | periodDate period choice path => do
    let period ← Consultation.ofExcept (Period.ofValue period)
    let settings ← Consultation.ofExcept (choice.accept store)
    pure (.parts (← Consultation.ofExcept (Note.date? settings period path)))
  | isPeriodPath period given choice calendar path => do
    let period ← Consultation.ofExcept (Period.ofValue period)
    let calendar ← CalendarChoice.resolve? calendar
    let settings ← Consultation.ofExcept (choice.accept store)
    pure (.truth (← Note.isPath settings calendar period given path))

end Query

end Daybook
