import Daybook.Session.Basic
import Daybook.Session.Query
import Daybook.Settings.LocaleChoice

/-!
Contract: requests, and how a session answers them.

Owns:
- the ways to make settings, and the requests that change a session on purpose;
- the answer to a request together with the session after it;
- whole runs of requests.

Does not own: the requests that only ask.
-/

namespace Daybook

/-- The ways to make settings. -/
inductive SettingsRecipe where
  | made (changes : SettingsChoice)
  /-- The standard settings or stored ones, with the given changes and then single ones. -/
  | replaced (name : Option Text) (changes : SettingsChoice) (single : List (Text × Value))
  | accepted (settings : SettingsChoice)
  | ofHost (record : Record)
  deriving Repr

namespace SettingsRecipe

def build (store : Store) : SettingsRecipe → Except Fault Settings
  | made changes => do Settings.ofRecord (← (← changes.resolve store).changes)
  | replaced name changes single => do
    let settings ← store.findOrStandard name
    settings.replaceGiven (← changes.resolve store) single
  | accepted settings => settings.accept store
  | ofHost record => Settings.ofHostRecord record

end SettingsRecipe

/-- Everything that a session can be asked to do. -/
inductive Request where
  | ask (query : Query)
  /-- Makes settings, shows them, and stores them if they are given a name. -/
  | makeSettings (recipe : SettingsRecipe) (name : Option Text)
  | chooseLocale (record : Record)
  | configureLocale (settings : SettingsChoice)
  /-- Leaves no locale in force. -/
  | forgetLocale
  | runLine (line : List Text)
  | setToday (day : GivenDay)
  deriving Repr

namespace Session

/-- Puts a locale in force, if it is one, and shows it. -/
def chooseLocale (session : Session) : Except Fault Locale → Except Fault Answer × Session
  | .ok locale => (.ok (.locale locale), session.withLocale locale)
  | .error fault => (.error fault, session)

def localeOf (session : Session) (choice : SettingsChoice) : Except Fault Locale := do
  (← choice.accept session.store).locale

/-- Carries out a command line.  Its locale, where it chooses one, stays in force, even if the
command then fails. -/
def runLine (session : Session) (line : List Text) :
    Except Fault CommandLine.Report × Session :=
  match CommandLine.read line with
  | .error ending => (.ok (.ofEnding ending), session)
  | .ok invocation =>
    match invocation.locale with
    | .error fault => (.error fault, session)
    | .ok locale => (session.withLocale locale).consult invocation.command.report

/-- Carries out a request: the answer, and the session after it. -/
def perform (session : Session) : Request → Except Fault Answer × Session
  | .ask query => session.consult (query.work session.store)
  | .makeSettings recipe name =>
    match recipe.build session.store with
    | .ok settings => (settings.view.map .settings, session.withStored name settings)
    | .error fault => (.error fault, session)
  | .chooseLocale record => session.chooseLocale (Locale.ofRecord record)
  | .configureLocale choice => session.chooseLocale (session.localeOf choice)
  | .forgetLocale => (.ok .nothing, { session with locale := none })
  | .runLine line => ((session.runLine line).1.map .report, (session.runLine line).2)
  | .setToday given =>
    match given.resolve with
    | .ok day => (.ok .nothing, { session with today := day })
    | .error fault => (.error fault, session)

/-- The answers to requests that are made one after the other, each with the session after it.  A
request that fails does not end the run. -/
def run (session : Session) : List Request → List (Except Fault Answer × Session)
  | [] => []
  | request :: rest => session.perform request :: (session.perform request).2.run rest

end Session

end Daybook
