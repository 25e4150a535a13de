import Daybook.Main
import Daybook.Note
import Daybook.Session.Request
import Daybook.Proofs.Path.Joining
import Daybook.Proofs.Pattern.Spelling
import Daybook.Proofs.Pattern.Compilation
import Daybook.Proofs.Attempt
import Daybook.Proofs.Path.Rendering
import Daybook.Proofs.Calendar.Solar
import Daybook.Proofs.Calendar.Gregorian
import Daybook.Proofs.Calendar.Date
import Daybook.Proofs.Path.Recovery
import Daybook.Proofs.Path.DayPattern
import Daybook.Proofs.Path.RoundTrip
import Daybook.Proofs.Note
import Daybook.Proofs.Session.Clock
import Daybook.Proofs.Session.Equivalence
import Daybook.Proofs.Pattern.Brackets
import Daybook.Proofs.Pattern.Scanning
import Daybook.Proofs.Path.Folders
import Daybook.Proofs.Pattern.Quarter
import Daybook.Proofs.Pattern.RunByRun
import Daybook.Proofs.Pattern.Unmarked
import Daybook.Proofs.Pattern.SolarFields
import Daybook.Proofs.CommandLine.Reading
import Daybook.Proofs.Session.LocaleUse
import Daybook.Proofs.Session.LocaleFrame
import Daybook.Proofs.Session.Recognition
import Daybook.Proofs.Path.DigitScript
import Daybook.Proofs.Path.Figures
import Daybook.Proofs.Calendar.Reach
import Daybook.Proofs.Path.YearPattern
import Daybook.Proofs.CommandLine.Ending
import Daybook.Proofs.Calendar.SolarWeek
import Daybook.Proofs.Calendar.GregorianWeek
import Daybook.Proofs.Path.WeekPattern
import Daybook.Proofs.Pattern.Absorption
import Daybook.Proofs.Calendar.SolarDate
import Daybook.Proofs.Calendar.Saturdays
import Daybook.Proofs.Path.Shown
import Daybook.Proofs.Path.Context
import Daybook.Proofs.Calendar.WeekYear
import Daybook.Proofs.Path.BaseFolder
import Daybook.Proofs.Path.Separators
import Daybook.Proofs.Path.PersianNumbers
import Daybook.Proofs.Settings.Validation
import Daybook.Proofs.Session.DefaultPattern
import Daybook.Proofs.DateParts
import Daybook.Proofs.Settings.HostRecord
import Daybook.Proofs.Settings.Replacement
