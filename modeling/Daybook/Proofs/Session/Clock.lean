import Daybook.Session.Request

/-!
Contract: which work gives the same answer on any day.

Owns:
- work that ignores the clock, and how it is put together from such work;
- parts of a date that fix it without the day of today;
- the texts, paths, queries and command lines for such parts.

Does not own: work on weeks without a day, which starts from today.
-/

namespace Daybook

namespace Consultation

/-- Whether work answers alike on any two days, and leaves the same behind. -/
def IgnoresClock {α : Type} (work : Consultation α) : Prop :=
  ∀ (locale : Locale) (first second : Day), work ⟨first, locale⟩ = work ⟨second, locale⟩

section Closure

variable {α β : Type}

theorem ignoresClock_pure (value : α) : IgnoresClock (pure value : Consultation α) :=
  fun _ _ _ => rfl

theorem ignoresClock_ofExcept (result : Except Fault α) : (ofExcept result).IgnoresClock :=
  fun _ _ _ => rfl

theorem ignoresClock_locale : locale.IgnoresClock :=
  fun _ _ _ => rfl

theorem ignoresClock_noteCalendar (system : CalendarSystem) : (noteCalendar system).IgnoresClock :=
  fun _ _ _ => rfl

theorem ignoresClock_localeFor (system : CalendarSystem) : (localeFor system).IgnoresClock := by
  cases system with
  | solar => exact ignoresClock_locale
  | gregorian => exact ignoresClock_pure Locale.standard

theorem IgnoresClock.bind
    {work : Consultation α}
    {next : α → Consultation β}
    (ignores : work.IgnoresClock)
    (following : ∀ value, (next value).IgnoresClock) :
    (work >>= next).IgnoresClock := by
  intro locale first second
  show Consultation.bind work next _ = Consultation.bind work next _
  unfold Consultation.bind
  rw [ignores locale first second]
  cases work ⟨second, locale⟩ with
  | mk result used =>
    cases result with
    | error fault => rfl
    | ok value =>
      show ((next value _).1, _) = ((next value _).1, _)
      rw [following value locale first second]

/-- After a result, only the work for its own value matters. -/
theorem ignoresClock_ofExcept_bind
    {result : Except Fault α}
    {next : α → Consultation β}
    (following : ∀ value, result = .ok value → (next value).IgnoresClock) :
    (ofExcept result >>= next).IgnoresClock := by
  intro locale first second
  cases result with
  | error fault => rfl
  | ok value =>
    show ((next value _).1, _) = ((next value _).1, _)
    rw [following value rfl locale first second]

theorem IgnoresClock.orElse
    {work : Consultation α}
    (ignores : work.IgnoresClock)
    (mend : Fault → Except Fault α) :
    (work.orElse mend).IgnoresClock := by
  intro locale first second
  unfold Consultation.orElse
  rw [ignores locale first second]

theorem IgnoresClock.answer
    {work : Consultation α}
    (ignores : work.IgnoresClock)
    (locale : Locale)
    (first second : Day) :
    work.answer ⟨first, locale⟩ = work.answer ⟨second, locale⟩ := by
  rw [Consultation.answer, Consultation.answer, ignores locale first second]

end Closure

end Consultation

open Consultation

/-! ### Dates -/

/-- Whether parts stand for a date that is the same on any day: they have a day, or no week. -/
def DateParts.IsFixed (parts : DateParts) : Prop :=
  parts.day ≠ none ∨ parts.week = none

namespace Calendar

theorem ignoresClock_orShared
    (system : CalendarSystem)
    (calendar : Option Calendar) :
    (orShared system calendar).IgnoresClock := by
  cases calendar with
  | none => exact (ignoresClock_noteCalendar system).bind fun _ => ignoresClock_pure _
  | some calendar => exact ignoresClock_pure calendar

theorem ignoresClock_atDate
    (calendar : Calendar)
    (year : Int)
    (month : Option Int)
    (day : Int) :
    (calendar.atDate year month day).IgnoresClock := by
  cases calendar with
  | echo => exact (ignoresClock_ofExcept _).bind fun _ => ignoresClock_pure _
  | ofSystem system today =>
    exact (ignoresClock_localeFor system).bind fun _ =>
      (ignoresClock_ofExcept _).bind fun _ => ignoresClock_pure _

/-- Only a week without a day asks for today. -/
theorem ignoresClock_moment
    (calendar : Calendar)
    {parts : DateParts}
    (isFixed : parts.IsFixed) :
    (calendar.moment parts).IgnoresClock := by
  obtain ⟨year, month, day, week, quarter⟩ := parts
  cases day with
  | some day => exact calendar.ignoresClock_atDate year month day
  | none =>
    cases week with
    | none => exact calendar.ignoresClock_atDate year (some (monthOrFirst month)) 1
    | some week =>
      rcases isFixed with hasDay | hasNoWeek
      · exact absurd rfl hasDay
      · cases hasNoWeek

end Calendar

theorem Moment.ignoresClock_render
    (pattern : Text)
    (moment : Moment) :
    (moment.render pattern).IgnoresClock := by
  cases moment with
  | date found =>
    exact (ignoresClock_localeFor found.system).bind fun _ => ignoresClock_ofExcept _
  | echo numbers => exact ignoresClock_pure _

/-! ### Descriptions of calendars and dates -/

/-- A calendar is described without a look at the clock, even one that is told its own day. -/
theorem CalendarChoice.ignoresClock_resolve (choice : CalendarChoice) :
    choice.resolve.IgnoresClock := by
  rcases choice with ⟨system, _ | given⟩ | system | _
  · exact ignoresClock_pure _
  · exact (ignoresClock_ofExcept given.resolve).bind fun _ => ignoresClock_pure _
  · exact (ignoresClock_ofExcept (Path.chooseSystem system)).bind fun chosen =>
      Calendar.ignoresClock_orShared chosen none
  · exact ignoresClock_pure _

theorem CalendarChoice.ignoresClock_resolve? (choice : Option CalendarChoice) :
    (resolve? choice).IgnoresClock := by
  cases choice with
  | none => exact ignoresClock_pure none
  | some choice => exact choice.ignoresClock_resolve.bind fun _ => ignoresClock_pure _

/-- Whether a date is described without a week. -/
def DateChoice.IsFixed : DateChoice → Prop
  | .ofParts _ _ _ _ => True
  | .ofWeek _ _ _ => False
  | .ofDay _ _ => True

theorem DateChoice.ignoresClock_resolve
    {choice : DateChoice}
    (isFixed : choice.IsFixed) :
    choice.resolve.IgnoresClock := by
  cases choice with
  | ofParts calendar year month day =>
    exact calendar.ignoresClock_resolve.bind fun resolved =>
      (resolved.ignoresClock_atDate year month day).bind fun _ => ignoresClock_ofExcept _
  | ofWeek calendar year week => exact absurd isFixed id
  | ofDay system day => exact (ignoresClock_ofExcept _).bind fun _ => ignoresClock_pure _

/-! ### Texts and paths -/

section Fixed

variable
  {parts : DateParts}
  (isFixed : parts.IsFixed)

include isFixed

theorem Path.ignoresClock_dateText
    (system : CalendarSystem)
    (calendar : Option Calendar)
    (pattern : Option Text) :
    (dateText system calendar pattern parts).IgnoresClock :=
  (ignoresClock_ofExcept _).bind fun _ =>
    (Calendar.ignoresClock_orShared system calendar).bind fun chosen =>
      (chosen.ignoresClock_moment isFixed).bind fun moment =>
        (ignoresClock_ofExcept _).bind fun prepared => moment.ignoresClock_render prepared

theorem Path.ignoresClock_notePath
    (system : CalendarSystem)
    (calendar : Option Calendar)
    (base : Text)
    (pattern : Option Text) :
    (notePath system calendar base pattern parts).IgnoresClock :=
  (ignoresClock_dateText isFixed system calendar pattern).bind fun _ => ignoresClock_pure _

theorem Note.ignoresClock_path
    (settings : Settings)
    (calendar : Option Calendar)
    (period : Period) :
    (path settings calendar period parts).IgnoresClock := by
  unfold path
  split
  · exact (ignoresClock_ofExcept _).bind fun system => (ignoresClock_ofExcept _).bind fun folder =>
      (ignoresClock_ofExcept _).bind fun pattern =>
        Path.ignoresClock_notePath isFixed system calendar folder pattern
  · exact ignoresClock_ofExcept _

theorem Note.ignoresClock_isPath
    (settings : Settings)
    (calendar : Option Calendar)
    (period : Period)
    (file : Text) :
    (isPath settings calendar period parts file).IgnoresClock := by
  unfold isPath
  split
  · exact (ignoresClock_ofExcept _).bind fun system => (ignoresClock_ofExcept _).bind fun folder =>
      (ignoresClock_ofExcept _).bind fun pattern =>
        (Path.ignoresClock_notePath isFixed system calendar folder pattern).bind fun _ =>
          ignoresClock_pure _
  · exact ignoresClock_pure false

end Fixed

namespace DateOrder

variable
  {order : DateOrder}
  (isFixed : order.parts.IsFixed)

include isFixed

theorem ignoresClock_dateText : order.dateText.IgnoresClock :=
  (CalendarChoice.ignoresClock_resolve? order.calendar).bind fun calendar =>
    (ignoresClock_ofExcept _).bind fun system =>
      Path.ignoresClock_dateText isFixed system calendar order.pattern

theorem ignoresClock_notePath (base : Option Text) : (order.notePath base).IgnoresClock :=
  (CalendarChoice.ignoresClock_resolve? order.calendar).bind fun calendar =>
    (ignoresClock_ofExcept _).bind fun folder => (ignoresClock_ofExcept _).bind fun system =>
      Path.ignoresClock_notePath isFixed system calendar folder order.pattern

theorem ignoresClock_isNotePath
    (base : Option Text)
    (path : Text) :
    (order.isNotePath base path).IgnoresClock :=
  (ignoresClock_notePath isFixed base).bind fun _ => ignoresClock_pure _

end DateOrder

/-! ### Requests -/

/-- Whether a query does not start from today: it neither asks for today nor is about a week without
a day. -/
def Query.IsFixed : Query → Prop
  | .date choice _ => choice.IsFixed
  | .sameDate left right => left.IsFixed ∧ ∀ choice ∈ right, choice.IsFixed
  | .sharedCalendar _ => False
  | .calendarToday _ => False
  | .dateText order => order.parts.IsFixed
  | .notePath _ order => order.parts.IsFixed
  | .isNotePath _ order _ => order.parts.IsFixed
  | .roundTrip _ order => order.parts.IsFixed
  | .periodPath _ given _ _ => given.IsFixed
  | .isPeriodPath _ given _ _ _ => given.IsFixed
  | _ => True

/-- Whether a command is not about a week without a day, as far as its date can be read. -/
def CommandLine.Command.IsFixed : CommandLine.Command → Prop
  | .dateText _ date _ => ∀ parts, DateParts.ofRecord date = .ok parts → parts.IsFixed
  | .notePath _ _ date _ => ∀ parts, DateParts.ofRecord date = .ok parts → parts.IsFixed
  | .dateOf _ _ => True

/-- Whether a request does not start from today, as a query or on a command line. -/
def Request.IsFixed : Request → Prop
  | .ask query => query.IsFixed
  | .runLine line => ∀ invocation, CommandLine.read line = .ok invocation → invocation.command.IsFixed
  | _ => True

theorem Query.ignoresClock_work
    (store : Store)
    {query : Query}
    (isFixed : query.IsFixed) :
    (query.work store).IgnoresClock := by
  cases query with
  | parts | replaced | markingSteps | dayOfYear | folder | dateForms =>
    exact ignoresClock_pure _
  | system | partsOf | quarterPut | marked | isLongYear | monthLength | weekday | dateIn
    | insideBase | cleanBase | periodSettings | enabledPeriods =>
    exact (ignoresClock_ofExcept _).bind fun _ => ignoresClock_pure _
  | prepared | dateOf | settings =>
    exact (ignoresClock_ofExcept _).bind fun _ => (ignoresClock_ofExcept _).bind fun _ =>
      ignoresClock_pure _
  | periodDate =>
    exact (ignoresClock_ofExcept _).bind fun _ => (ignoresClock_ofExcept _).bind fun _ =>
      (ignoresClock_ofExcept _).bind fun _ => ignoresClock_pure _
  | locale | digits | monthNames => exact ignoresClock_locale.bind fun _ => ignoresClock_pure _
  | checkSettings choice =>
    refine (ignoresClock_ofExcept _).bind fun given => ?_
    cases given with
    | settings found => exact (ignoresClock_ofExcept _).bind fun _ => ignoresClock_pure _
    | value _ => exact ignoresClock_ofExcept _
  | sharedCalendar given => exact absurd isFixed id
  | calendarToday calendar => exact absurd isFixed id
  | date choice patterns =>
    exact (DateChoice.ignoresClock_resolve isFixed).bind fun found =>
      (ignoresClock_localeFor found.system).bind fun _ => ignoresClock_pure _
  | sameDate left right =>
    refine (DateChoice.ignoresClock_resolve isFixed.1).bind fun found => ?_
    cases right with
    | none => exact ignoresClock_pure _
    | some right =>
      exact (DateChoice.ignoresClock_resolve (isFixed.2 right rfl)).bind fun _ =>
        ignoresClock_pure _
  | dateText order =>
    exact (DateOrder.ignoresClock_dateText isFixed).bind fun _ => ignoresClock_pure _
  | notePath base order =>
    exact (DateOrder.ignoresClock_notePath isFixed base).bind fun _ => ignoresClock_pure _
  | isNotePath base order path =>
    exact (DateOrder.ignoresClock_isNotePath isFixed base path).bind fun _ => ignoresClock_pure _
  | roundTrip base order =>
    exact (DateOrder.ignoresClock_notePath isFixed base).bind fun path =>
      (ignoresClock_ofExcept _).bind fun _ => (ignoresClock_ofExcept _).bind fun _ =>
        (DateOrder.ignoresClock_isNotePath isFixed base path).bind fun _ => ignoresClock_pure _
  | periodPath period given choice calendar =>
    exact (ignoresClock_ofExcept _).bind fun period =>
      (CalendarChoice.ignoresClock_resolve? calendar).bind fun resolved =>
        (ignoresClock_ofExcept _).bind fun settings =>
          (Note.ignoresClock_path isFixed settings resolved period).bind fun _ =>
            ignoresClock_pure _
  | isPeriodPath period given choice calendar path =>
    exact (ignoresClock_ofExcept _).bind fun period =>
      (CalendarChoice.ignoresClock_resolve? calendar).bind fun resolved =>
        (ignoresClock_ofExcept _).bind fun settings =>
          (Note.ignoresClock_isPath isFixed settings resolved period path).bind fun _ =>
            ignoresClock_pure _

theorem CommandLine.Command.ignoresClock_report
    {command : CommandLine.Command}
    (isFixed : command.IsFixed) :
    command.report.IgnoresClock := by
  refine IgnoresClock.orElse ?_ reportFault
  cases command with
  | dateText pattern date system =>
    exact ignoresClock_ofExcept_bind fun parts read => (ignoresClock_ofExcept _).bind fun chosen =>
      (Path.ignoresClock_dateText (isFixed parts read) chosen none pattern).bind fun _ =>
        ignoresClock_pure _
  | notePath base pattern date system =>
    exact ignoresClock_ofExcept_bind fun parts read => (ignoresClock_ofExcept _).bind fun folder =>
      (ignoresClock_ofExcept _).bind fun chosen =>
        (Path.ignoresClock_notePath (isFixed parts read) chosen none folder pattern).bind fun _ =>
          ignoresClock_pure _
  | dateOf base path =>
    refine (ignoresClock_ofExcept _).bind fun folder => (ignoresClock_ofExcept _).bind fun found => ?_
    cases found with
    | some parts => exact ignoresClock_pure _
    | none => exact ignoresClock_pure _

end Daybook
