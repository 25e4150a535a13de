import Daybook.Proofs.Session.Clock
import Mathlib.Data.List.Forall2

/-!
Contract: what a session remembers without letting it be seen.

Owns:
- sessions that are alike: in the clock, the stored settings and the locale in force;
- the answer to a request in like sessions, and the sessions after it;
- whole runs of requests in like sessions;
- requests that do not start from today, on different days.

Does not own: which requests put a locale in force.
-/

namespace Daybook

namespace Session

/-- Two sessions are alike if they have the same clock, the same stored settings and the same locale
in force.  Whether that locale was chosen or is the standard one, and which shared calendars were
used, does not count. -/
structure Alike (first second : Session) : Prop where
  today : first.today = second.today
  effectiveLocale : first.effectiveLocale = second.effectiveLocale
  store : first.store = second.store

namespace Alike

section Changes

variable
  {first second : Session}
  (alike : first.Alike second)

include alike

theorem surroundings : first.surroundings = second.surroundings := by
  rw [Session.surroundings, Session.surroundings, alike.today, alike.effectiveLocale]

/-- What work leaves in a session is hidden, whatever it is. -/
theorem marked (used other : Footprint) : (first.marked used).Alike (second.marked other) where
  today := alike.today
  effectiveLocale := by
    rw [effectiveLocale_marked, effectiveLocale_marked, alike.effectiveLocale]
  store := alike.store

theorem withLocale (locale : Locale) : (first.withLocale locale).Alike (second.withLocale locale) :=
  ⟨alike.today, rfl, alike.store⟩

theorem withStored
    (name : Option Text)
    (settings : Settings) :
    (first.withStored name settings).Alike (second.withStored name settings) := by
  cases name with
  | none => exact alike
  | some name =>
    exact ⟨alike.today, alike.effectiveLocale, congrArg (List.cons (name, settings)) alike.store⟩

end Changes

end Alike

/-! ### Single requests -/

/-- An answer, and a session of which only what can be seen counts. -/
def SameOutcome {α : Type} (first second : α × Session) : Prop :=
  first.1 = second.1 ∧ first.2.Alike second.2

section Steps

variable
  {first second : Session}
  (alike : first.Alike second)

include alike

theorem Alike.consult
    {α : Type}
    (work : Consultation α) :
    SameOutcome (first.consult work) (second.consult work) := by
  have answers : (first.consult work).1 = (second.consult work).1 :=
    congrArg work.answer alike.surroundings
  exact ⟨answers, alike.marked _ _⟩

theorem Alike.chooseLocale (chosen : Except Fault Locale) :
    SameOutcome (first.chooseLocale chosen) (second.chooseLocale chosen) := by
  cases chosen with
  | ok locale => exact ⟨rfl, alike.withLocale locale⟩
  | error fault => exact ⟨rfl, alike⟩

theorem Alike.runLine (line : List Text) :
    SameOutcome (first.runLine line) (second.runLine line) := by
  unfold Session.runLine
  cases CommandLine.read line with
  | error ending => exact ⟨rfl, alike⟩
  | ok invocation =>
    dsimp only
    cases invocation.locale with
    | error fault => exact ⟨rfl, alike⟩
    | ok locale => exact (alike.withLocale locale).consult invocation.command.report

/-- A request is answered alike in like sessions, with success or with the same fault, and leaves
like sessions. -/
theorem Alike.perform (request : Request) :
    SameOutcome (first.perform request) (second.perform request) := by
  cases request with
  | ask query =>
    have sameWork : query.work first.store = query.work second.store := by rw [alike.store]
    rw [Session.perform, Session.perform, sameWork]
    exact alike.consult _
  | makeSettings recipe name =>
    rw [Session.perform, Session.perform, alike.store]
    cases recipe.build second.store with
    | ok settings => exact ⟨rfl, alike.withStored name settings⟩
    | error fault => exact ⟨rfl, alike⟩
  | chooseLocale record => exact alike.chooseLocale (Locale.ofRecord record)
  | configureLocale choice =>
    have sameLocale : first.localeOf choice = second.localeOf choice := by
      rw [localeOf, localeOf, alike.store]
    rw [Session.perform, Session.perform, sameLocale]
    exact alike.chooseLocale _
  | forgetLocale => exact ⟨rfl, alike.today, rfl, alike.store⟩
  | runLine line =>
    obtain ⟨sameReport, likeSessions⟩ := alike.runLine line
    exact ⟨congrArg (Except.map Answer.report) sameReport, likeSessions⟩
  | setToday given =>
    rw [Session.perform, Session.perform]
    cases given.resolve with
    | ok day => exact ⟨rfl, rfl, alike.effectiveLocale, alike.store⟩
    | error fault => exact ⟨rfl, alike⟩

/-! ### Runs -/

/-- So are all requests of a run, one after the other. -/
theorem Alike.run (requests : List Request) :
    List.Forall₂ SameOutcome (first.run requests) (second.run requests) := by
  induction requests generalizing first second with
  | nil => exact .nil
  | cons request rest inductionHypothesis =>
    have here := alike.perform request
    exact .cons here (inductionHypothesis here.2)

end Steps

theorem map_fst_of_sameOutcome
    {α : Type}
    {first second : List (α × Session)}
    (outcomes : List.Forall₂ SameOutcome first second) :
    first.map Prod.fst = second.map Prod.fst := by
  induction outcomes with
  | nil => rfl
  | cons here _ inductionHypothesis =>
    rw [List.map_cons, List.map_cons, here.1, inductionHypothesis]

/-! ### The clock -/

/-- A request that does not start from today is answered alike on any two days. -/
theorem answer_perform_withToday
    (session : Session)
    (today : Day)
    {request : Request}
    (isFixed : request.IsFixed) :
    (({ session with today := today } : Session).perform request).1 =
      (session.perform request).1 := by
  cases request with
  | ask query =>
    exact (Query.ignoresClock_work session.store isFixed).answer _ _ _
  | makeSettings recipe name =>
    rw [Session.perform, Session.perform]
    cases recipe.build session.store <;> rfl
  | chooseLocale record =>
    rw [Session.perform, Session.perform]
    cases Locale.ofRecord record <;> rfl
  | configureLocale choice =>
    rw [Session.perform, Session.perform]
    show (Session.chooseLocale _ (session.localeOf choice)).1 = _
    cases session.localeOf choice <;> rfl
  | forgetLocale => rfl
  | runLine line =>
    rw [Session.perform, Session.perform, Session.runLine, Session.runLine]
    cases read : CommandLine.read line with
    | error ending => rfl
    | ok invocation =>
      dsimp only
      cases invocation.locale with
      | error fault => rfl
      | ok locale =>
        have sameReport :=
          (CommandLine.Command.ignoresClock_report (isFixed invocation read)).answer
            locale today session.today
        exact congrArg (Except.map Answer.report) sameReport
  | setToday given =>
    rw [Session.perform, Session.perform]
    cases given.resolve <;> rfl

/-! ### Hidden state -/

/-- The standard locale may be chosen at the start or never, and any calendars may have been used
before. -/
theorem alike_chooseLocale_standard
    {session : Session}
    (unset : session.locale = none)
    (solar gregorian : Bool) :
    ({ (session.perform (.chooseLocale [])).2 with
        solarShared := solar, gregorianShared := gregorian } : Session).Alike session where
  today := rfl
  effectiveLocale := by
    rw [effectiveLocale, effectiveLocale, unset]
    rfl
  store := rfl

end Session

end Daybook
