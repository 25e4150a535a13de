import Daybook.Calendar.System
import Daybook.Period

/-!
Contract: the settings there are: their names, their kinds and their defaults.

Owns:
- the names of all settings, and the ones for the notes of a period;
- the kind of value that each setting takes;
- the default of every setting;
- the names by which a host record gives settings.

Does not own: settings that were changed.
-/

namespace Daybook.Settings

def calendarName : Text := "CALENDAR".toList

/-- The name of the setting that turns quarterly notes on. -/
def quarterlyName : Text := "ENABLE_QUARTERLY_NOTES".toList

def digitsName : Text := "PERSIAN_DIGITS".toList

/-- The name of the setting for the language of solar month names. -/
def dialectName : Text := "DIALECT".toList

def folderName : Period → Text
  | .daily => "DAILY_NOTES_FOLDER".toList
  | .weekly => "WEEKLY_NOTES_FOLDER".toList
  | .monthly => "MONTHLY_NOTES_FOLDER".toList
  | .quarterly => "QUARTERLY_NOTES_FOLDER".toList
  | .yearly => "YEARLY_NOTES_FOLDER".toList

def patternName : Period → Text
  | .daily => "DAILY_NOTES_FORMAT".toList
  | .weekly => "WEEKLY_NOTES_FORMAT".toList
  | .monthly => "MONTHLY_NOTES_FORMAT".toList
  | .quarterly => "QUARTERLY_NOTES_FORMAT".toList
  | .yearly => "YEARLY_NOTES_FORMAT".toList

/-- The pattern of a period's notes where none is set. -/
def defaultPattern : Period → Text
  | .daily => "YYYY-MM-DD".toList
  | .weekly => "YYYY-[W]WW".toList
  | .monthly => "YYYY-MM".toList
  | .quarterly => "YYYY-[Q]Q".toList
  | .yearly => "YYYY".toList

/-- The settings for the notes of a period, with their defaults. -/
def periodDefaults (period : Period) : Record :=
  [(folderName period, .text []), (patternName period, .text (defaultPattern period))]

def defaults : Record :=
  (calendarName, .text CalendarSystem.solar.name) ::
    (Period.all.flatMap periodDefaults ++
      [(quarterlyName, .bool true),
       (digitsName, .bool false),
       (dialectName, .text Dialect.persianModern.name)])

/-- The kinds of values that settings take. -/
inductive Kind where
  | text
  | switch
  | system
  | dialect
  deriving DecidableEq, Repr

def kinds : List (Text × Kind) :=
  (calendarName, .system) :: (quarterlyName, .switch) :: (digitsName, .switch) ::
    (dialectName, .dialect) ::
    Period.all.flatMap fun period => [(folderName period, .text), (patternName period, .text)]

def kind? (name : Text) : Option Kind :=
  List.lookup name kinds

/-- The names in a host record, each with the setting that it gives, in the order in which they are
taken over. -/
def hostNames : List (Text × Text) :=
  [("dateFormat".toList, calendarName),
   ("dailyNotesFolderPath".toList, folderName .daily),
   ("dailyNotesFormat".toList, patternName .daily),
   ("weeklyNotesFolderPath".toList, folderName .weekly),
   ("weeklyNotesFormat".toList, patternName .weekly),
   ("monthlyNotesFolderPath".toList, folderName .monthly),
   ("monthlyNotesFormat".toList, patternName .monthly),
   ("quarterlyNotesFolderPath".toList, folderName .quarterly),
   ("quarterlyNotesFormat".toList, patternName .quarterly),
   ("yearlyNotesFolderPath".toList, folderName .yearly),
   ("yearlyNotesFormat".toList, patternName .yearly),
   ("enableQuarterlyNotes".toList, quarterlyName)]

end Daybook.Settings
