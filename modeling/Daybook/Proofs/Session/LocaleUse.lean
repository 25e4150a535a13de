import Daybook.Proofs.Path.Rendering
import Daybook.Session.Query

/-!
Contract: which work does without the locale.

Owns:
- work that never asks for the locale, and how it is put together from such work;
- calendars, dates and orders of texts that have nothing to do with solar dates;
- queries that only rewrite, recover, handle settings, compute, or work on Gregorian dates.

Does not own: what a session makes of the work that asks for the locale.
-/

namespace Daybook

open Attempt

namespace Consultation

/-- Whether work never asks for the locale, whatever else it consults and however it ends. -/
def SparesLocale {α : Type} (work : Consultation α) : Prop :=
  ∀ surroundings : Surroundings, (work.footprint surroundings).usesLocale = false

section Closure

variable {α β : Type}

theorem sparesLocale_pure (value : α) : SparesLocale (pure value : Consultation α) :=
  fun _ => rfl

theorem sparesLocale_ofExcept (result : Except Fault α) : (ofExcept result).SparesLocale :=
  fun _ => rfl

theorem sparesLocale_today : today.SparesLocale :=
  fun _ => rfl

theorem sparesLocale_noteCalendar (system : CalendarSystem) :
    (noteCalendar system).SparesLocale := by
  intro surroundings
  cases system <;> rfl

theorem sparesLocale_localeFor_gregorian : (localeFor .gregorian).SparesLocale :=
  fun _ => rfl

/-- The second piece of work need not ask for the locale at an answer of the first. -/
theorem SparesLocale.bind
    {work : Consultation α}
    {next : α → Consultation β}
    (spares : work.SparesLocale)
    (following :
      ∀ surroundings value, work.answer surroundings = .ok value → (next value).SparesLocale) :
    (work >>= next).SparesLocale := by
  intro surroundings
  rw [footprint_bind]
  show ((work.footprint surroundings).usesLocale || _) = false
  rw [spares surroundings, Bool.false_or]
  cases answered : work.answer surroundings with
  | error fault => rfl
  | ok value => exact following surroundings value answered surroundings

/-- Work after a result matters only for the result's own value. -/
theorem sparesLocale_ofExcept_bind
    {result : Except Fault α}
    {next : α → Consultation β}
    (following : ∀ value, result = .ok value → (next value).SparesLocale) :
    (ofExcept result >>= next).SparesLocale :=
  (sparesLocale_ofExcept result).bind fun _ value answered => following value answered

end Closure

end Consultation

open Consultation

/-! ### Gregorian dates -/

/-- Whether a calendar gives no solar dates. -/
def Calendar.IsGregorian : Calendar → Prop
  | .ofSystem system _ => system = .gregorian
  | .echo => True

/-- Whether a moment is no solar date. -/
def Moment.IsGregorian : Moment → Prop
  | .date found => found.system = .gregorian
  | .echo _ => True

namespace Calendar

theorem sparesLocale_clock (today : Option Day) : (clock today).SparesLocale := by
  cases today with
  | none => exact sparesLocale_today
  | some day => exact sparesLocale_pure day

theorem sparesLocale_shared (system : CalendarSystem) : (shared system).SparesLocale :=
  (sparesLocale_noteCalendar system).bind fun _ _ _ => sparesLocale_pure _

section Gregorian

variable
  {calendar : Calendar}
  (isGregorian : calendar.IsGregorian)

include isGregorian

theorem sparesLocale_atDate
    (year : Int)
    (month : Option Int)
    (day : Int) :
    (calendar.atDate year month day).SparesLocale := by
  cases calendar with
  | echo => exact sparesLocale_ofExcept_bind fun _ _ => sparesLocale_pure _
  | ofSystem system today =>
    cases isGregorian
    exact sparesLocale_localeFor_gregorian.bind fun _ _ _ =>
      sparesLocale_ofExcept_bind fun _ _ => sparesLocale_pure _

theorem sparesLocale_atWeek (year week : Int) : (calendar.atWeek year week).SparesLocale := by
  cases calendar with
  | echo => exact sparesLocale_ofExcept_bind fun _ _ => sparesLocale_pure _
  | ofSystem system today =>
    cases isGregorian
    exact sparesLocale_localeFor_gregorian.bind fun _ _ _ =>
      (sparesLocale_clock today).bind fun _ _ _ =>
        sparesLocale_ofExcept_bind fun _ _ => sparesLocale_pure _

theorem isGregorian_of_atDate
    {year : Int}
    {month : Option Int}
    {day : Int}
    {surroundings : Surroundings}
    {moment : Moment}
    (answered : (calendar.atDate year month day).answer surroundings = .ok moment) :
    moment.IsGregorian := by
  cases calendar with
  | echo =>
    rw [answer_atDate_echo, map_eq_ok_iff] at answered
    obtain ⟨_, -, rfl⟩ := answered
    trivial
  | ofSystem system today =>
    cases isGregorian
    rw [answer_atDate, map_eq_ok_iff] at answered
    obtain ⟨date, found, rfl⟩ := answered
    exact Date.system_ofParts found

theorem isGregorian_of_atWeek
    {year week : Int}
    {surroundings : Surroundings}
    {moment : Moment}
    (answered : (calendar.atWeek year week).answer surroundings = .ok moment) :
    moment.IsGregorian := by
  cases calendar with
  | echo =>
    rw [answer_atWeek_echo, map_eq_ok_iff] at answered
    obtain ⟨_, -, rfl⟩ := answered
    trivial
  | ofSystem system today =>
    cases isGregorian
    rw [answer_atWeek, map_eq_ok_iff] at answered
    obtain ⟨date, found, rfl⟩ := answered
    exact Date.system_ofWeek found

theorem sparesLocale_moment (parts : DateParts) : (calendar.moment parts).SparesLocale := by
  unfold moment
  split
  · exact sparesLocale_atDate isGregorian _ _ _
  · exact sparesLocale_atWeek isGregorian _ _
  · exact sparesLocale_atDate isGregorian _ _ _

theorem isGregorian_of_moment
    {parts : DateParts}
    {surroundings : Surroundings}
    {moment : Moment}
    (answered : (calendar.moment parts).answer surroundings = .ok moment) :
    moment.IsGregorian := by
  unfold Calendar.moment at answered
  split at answered
  · exact isGregorian_of_atDate isGregorian answered
  · exact isGregorian_of_atWeek isGregorian answered
  · exact isGregorian_of_atDate isGregorian answered

end Gregorian

end Calendar

theorem Moment.IsGregorian.sparesLocale_render
    {moment : Moment}
    (isGregorian : moment.IsGregorian)
    (pattern : Text) :
    (moment.render pattern).SparesLocale := by
  cases moment with
  | echo numbers => exact sparesLocale_pure _
  | date found =>
    obtain ⟨system, day⟩ := found
    cases isGregorian
    exact sparesLocale_localeFor_gregorian.bind fun _ _ _ => sparesLocale_ofExcept _

/-! ### Texts and paths -/

/-- Whether the calendar of a text, the given one or the shared one, gives no solar dates. -/
def Calendar.IsGregorianOr (system : CalendarSystem) : Option Calendar → Prop
  | some calendar => calendar.IsGregorian
  | none => system = .gregorian

namespace Path

section Gregorian

variable
  {system : CalendarSystem}
  {calendar : Option Calendar}
  (isGregorian : Calendar.IsGregorianOr system calendar)

include isGregorian

/-- Only the calendar counts for the locale, and not the system that the pattern is prepared for. -/
theorem sparesLocale_dateText
    (pattern : Option Text)
    (parts : DateParts) :
    (dateText system calendar pattern parts).SparesLocale := by
  have chosen : (Calendar.orShared system calendar).SparesLocale := by
    cases calendar with
    | none => exact Calendar.sparesLocale_shared system
    | some calendar => exact sparesLocale_pure calendar
  refine sparesLocale_ofExcept_bind fun _ _ => chosen.bind fun surroundings own answered => ?_
  have ownGregorian : own.IsGregorian := by
    rw [Calendar.answer_orShared] at answered
    cases answered
    cases calendar <;> exact isGregorian
  refine (Calendar.sparesLocale_moment ownGregorian parts).bind fun _ moment momentAnswered => ?_
  refine sparesLocale_ofExcept_bind fun prepared _ => ?_
  exact (Calendar.isGregorian_of_moment ownGregorian momentAnswered).sparesLocale_render prepared

theorem sparesLocale_notePath
    (base : Text)
    (pattern : Option Text)
    (parts : DateParts) :
    (notePath system calendar base pattern parts).SparesLocale :=
  (sparesLocale_dateText isGregorian pattern parts).bind fun _ _ _ => sparesLocale_pure _

theorem sparesLocale_isNotePath
    (base : Text)
    (pattern : Option Text)
    (parts : DateParts)
    (path : Text) :
    (isNotePath system calendar base pattern parts path).SparesLocale :=
  (sparesLocale_notePath isGregorian base pattern parts).bind fun _ _ _ => sparesLocale_pure _

end Gregorian

end Path

namespace Note

section Gregorian

variable
  {settings : Settings}
  {calendar : Option Calendar}
  (isGregorian : ∀ system, settings.system = .ok system → Calendar.IsGregorianOr system calendar)

include isGregorian

theorem sparesLocale_path
    (period : Period)
    (parts : DateParts) :
    (path settings calendar period parts).SparesLocale := by
  unfold path
  split
  · exact sparesLocale_ofExcept_bind fun system chosen =>
      sparesLocale_ofExcept_bind fun folder _ => sparesLocale_ofExcept_bind fun pattern _ =>
        Path.sparesLocale_notePath (isGregorian system chosen) folder pattern parts
  · exact sparesLocale_ofExcept _

theorem sparesLocale_isPath
    (period : Period)
    (parts : DateParts)
    (file : Text) :
    (isPath settings calendar period parts file).SparesLocale := by
  unfold isPath
  split
  · exact sparesLocale_ofExcept_bind fun system chosen =>
      sparesLocale_ofExcept_bind fun folder _ => sparesLocale_ofExcept_bind fun pattern _ =>
        Path.sparesLocale_isNotePath (isGregorian system chosen) folder pattern parts file
  · exact sparesLocale_pure false

end Gregorian

end Note

/-! ### Descriptions of calendars and dates -/

/-- Whether a value does not choose the solar system; one that chooses none is a fault. -/
def CalendarSystem.IsNotSolar (given : Value) : Prop :=
  CalendarSystem.ofValue? given ≠ some .solar

theorem CalendarSystem.eq_gregorian_of_chooseSystem
    {given : Value}
    (notSolar : IsNotSolar given)
    {system : CalendarSystem}
    (chosen : Path.chooseSystem given = .ok system) :
    system = .gregorian := by
  unfold Path.chooseSystem at chosen
  split at chosen
  · rename_i found
    cases chosen
    cases system with
    | solar => exact absurd found notSolar
    | gregorian => rfl
  · exact absurd chosen Fault.raise_ne_ok

/-- Whether a calendar is described that gives no solar dates. -/
def CalendarChoice.IsGregorian : CalendarChoice → Prop
  | .ofSystem system _ => system = .gregorian
  | .shared given => CalendarSystem.IsNotSolar given
  | .echo => True

/-- Whether a date is described that is no solar one. -/
def DateChoice.IsGregorian : DateChoice → Prop
  | .ofParts calendar _ _ _ => calendar.IsGregorian
  | .ofWeek calendar _ _ => calendar.IsGregorian
  | .ofDay system _ => system = .gregorian

/-- Whether the calendar that is described gives no solar dates; the shared one, where none is, does
not if the given condition holds. -/
def CalendarChoice.IsGregorianOr (sharedGregorian : Prop) : Option CalendarChoice → Prop
  | some choice => choice.IsGregorian
  | none => sharedGregorian

/-- Whether a text is ordered for no solar date. -/
def DateOrder.IsGregorian (order : DateOrder) : Prop :=
  CalendarChoice.IsGregorianOr (CalendarSystem.IsNotSolar order.system) order.calendar

namespace CalendarChoice

theorem sparesLocale_resolve (choice : CalendarChoice) : choice.resolve.SparesLocale := by
  rcases choice with ⟨system, _ | given⟩ | system | _
  · exact sparesLocale_pure _
  · exact sparesLocale_ofExcept_bind fun _ _ => sparesLocale_pure _
  · exact sparesLocale_ofExcept_bind fun chosen _ => Calendar.sparesLocale_shared chosen
  · exact sparesLocale_pure _

theorem sparesLocale_resolve? (choice : Option CalendarChoice) :
    (resolve? choice).SparesLocale := by
  cases choice with
  | none => exact sparesLocale_pure none
  | some choice => exact choice.sparesLocale_resolve.bind fun _ _ _ => sparesLocale_pure _

theorem isGregorian_of_resolve
    {choice : CalendarChoice}
    (isGregorian : choice.IsGregorian)
    {surroundings : Surroundings}
    {calendar : Calendar}
    (answered : choice.resolve.answer surroundings = .ok calendar) :
    calendar.IsGregorian := by
  rcases choice with ⟨system, _ | given⟩ | given | _
  · cases answered
    exact isGregorian
  · rw [resolve, answer_bind, answer_ofExcept] at answered
    obtain ⟨day, -, same⟩ := bind_eq_ok_iff.1 answered
    cases same
    exact isGregorian
  · rw [resolve, answer_bind, answer_ofExcept] at answered
    obtain ⟨system, chosen, same⟩ := bind_eq_ok_iff.1 answered
    cases same
    exact CalendarSystem.eq_gregorian_of_chooseSystem isGregorian chosen
  · cases answered
    trivial

theorem isGregorianOr_of_resolve?
    {sharedGregorian : Prop}
    {choice : Option CalendarChoice}
    (isGregorian : IsGregorianOr sharedGregorian choice)
    {surroundings : Surroundings}
    {calendar : Option Calendar}
    (answered : (resolve? choice).answer surroundings = .ok calendar)
    {system : CalendarSystem}
    (shared : sharedGregorian → system = .gregorian) :
    Calendar.IsGregorianOr system calendar := by
  cases choice with
  | none =>
    cases answered
    exact shared isGregorian
  | some choice =>
    rw [resolve?, answer_bind] at answered
    obtain ⟨own, resolved, same⟩ := bind_eq_ok_iff.1 answered
    cases same
    exact isGregorian_of_resolve isGregorian resolved

end CalendarChoice

namespace DateChoice

theorem system_of_dateOf
    {moment : Moment}
    (isGregorian : moment.IsGregorian)
    {date : Date}
    (found : dateOf moment = .ok date) :
    date.system = .gregorian := by
  cases moment with
  | date given =>
    cases found
    exact isGregorian
  | echo numbers => cases found

/-- The date among the moments of a chosen calendar, whichever moment is asked for. -/
theorem system_of_momentOf
    {calendar : CalendarChoice}
    (isGregorian : calendar.IsGregorian)
    {momentOf : Calendar → Consultation Moment}
    {surroundings : Surroundings}
    (keeps :
      ∀ {own moment}, own.IsGregorian → (momentOf own).answer surroundings = .ok moment →
        moment.IsGregorian)
    {date : Date}
    (answered :
      (do
        let moment ← momentOf (← calendar.resolve)
        Consultation.ofExcept (dateOf moment)).answer surroundings = .ok date) :
    date.system = .gregorian := by
  rw [answer_bind] at answered
  obtain ⟨own, resolved, later⟩ := bind_eq_ok_iff.1 answered
  rw [answer_bind] at later
  obtain ⟨moment, found, isDate⟩ := bind_eq_ok_iff.1 later
  have ownGregorian := CalendarChoice.isGregorian_of_resolve isGregorian resolved
  exact system_of_dateOf (keeps ownGregorian found) isDate

variable
  {choice : DateChoice}
  (isGregorian : choice.IsGregorian)

include isGregorian

theorem sparesLocale_resolve : choice.resolve.SparesLocale := by
  cases choice with
  | ofParts calendar year month day =>
    exact calendar.sparesLocale_resolve.bind fun _ own answered =>
      (Calendar.sparesLocale_atDate (CalendarChoice.isGregorian_of_resolve isGregorian answered)
        year month day).bind fun _ _ _ => sparesLocale_ofExcept _
  | ofWeek calendar year week =>
    exact calendar.sparesLocale_resolve.bind fun _ own answered =>
      (Calendar.sparesLocale_atWeek (CalendarChoice.isGregorian_of_resolve isGregorian answered)
        year week).bind fun _ _ _ => sparesLocale_ofExcept _
  | ofDay system day => exact sparesLocale_ofExcept_bind fun _ _ => sparesLocale_pure _

theorem system_of_resolve
    {surroundings : Surroundings}
    {date : Date}
    (answered : choice.resolve.answer surroundings = .ok date) :
    date.system = .gregorian := by
  cases choice with
  | ofParts calendar year month day =>
    exact system_of_momentOf isGregorian (fun own => Calendar.isGregorian_of_atDate own) answered
  | ofWeek calendar year week =>
    exact system_of_momentOf isGregorian (fun own => Calendar.isGregorian_of_atWeek own) answered
  | ofDay system given =>
    rw [resolve, answer_bind, answer_ofExcept] at answered
    obtain ⟨day, -, same⟩ := bind_eq_ok_iff.1 answered
    cases same
    exact isGregorian

end DateChoice

namespace DateOrder

variable
  {order : DateOrder}
  (isGregorian : order.IsGregorian)

include isGregorian

theorem sparesLocale_dateText : order.dateText.SparesLocale :=
  (CalendarChoice.sparesLocale_resolve? order.calendar).bind fun _ _ answered =>
    sparesLocale_ofExcept_bind fun _ chosen =>
      Path.sparesLocale_dateText
        (CalendarChoice.isGregorianOr_of_resolve? isGregorian answered fun notSolar =>
          CalendarSystem.eq_gregorian_of_chooseSystem notSolar chosen)
        order.pattern order.parts

theorem sparesLocale_notePath (base : Option Text) : (order.notePath base).SparesLocale :=
  (CalendarChoice.sparesLocale_resolve? order.calendar).bind fun _ _ answered =>
    sparesLocale_ofExcept_bind fun folder _ => sparesLocale_ofExcept_bind fun _ chosen =>
      Path.sparesLocale_notePath
        (CalendarChoice.isGregorianOr_of_resolve? isGregorian answered fun notSolar =>
          CalendarSystem.eq_gregorian_of_chooseSystem notSolar chosen)
        folder order.pattern order.parts

theorem sparesLocale_isNotePath
    (base : Option Text)
    (path : Text) :
    (order.isNotePath base path).SparesLocale :=
  (sparesLocale_notePath isGregorian base).bind fun _ _ _ => sparesLocale_pure _

end DateOrder

/-! ### Requests -/

/-- Whether the notes of the settings that are described are not solar. -/
def SettingsChoice.IsNotSolar (store : Store) (choice : SettingsChoice) : Prop :=
  ∀ settings, choice.accept store = .ok settings → settings.system ≠ .ok .solar

/-- Whether a query needs no locale: it only rewrites a pattern, recovers a date, handles settings
or computes with numbers, or all dates that it works on are Gregorian. -/
def Query.NeedsNoLocale (store : Store) : Query → Prop
  | .date choice _ => choice.IsGregorian
  | .sameDate left right => left.IsGregorian ∧ ∀ choice ∈ right, choice.IsGregorian
  | .locale | .digits _ | .monthNames => False
  | .dateText order => order.IsGregorian
  | .notePath _ order => order.IsGregorian
  | .isNotePath _ order _ => order.IsGregorian
  | .roundTrip _ order => order.IsGregorian
  | .periodPath _ _ choice calendar =>
    CalendarChoice.IsGregorianOr (choice.IsNotSolar store) calendar
  | .isPeriodPath _ _ choice calendar _ =>
    CalendarChoice.IsGregorianOr (choice.IsNotSolar store) calendar
  | _ => True

theorem Query.sparesLocale_work
    (store : Store)
    {query : Query}
    (needsNone : query.NeedsNoLocale store) :
    (query.work store).SparesLocale := by
  have eq_gregorian : ∀ {choice : SettingsChoice} {settings : Settings} {system : CalendarSystem},
      choice.accept store = .ok settings → settings.system = .ok system →
        choice.IsNotSolar store → system = .gregorian := by
    intro choice settings system accepted chosen notSolar
    cases system with
    | solar => exact absurd chosen (notSolar settings accepted)
    | gregorian => rfl
  cases query with
  | parts | replaced | markingSteps | dayOfYear | folder | dateForms =>
    exact sparesLocale_pure _
  | system | partsOf | quarterPut | marked | isLongYear | monthLength | weekday | dateIn
    | insideBase | cleanBase | periodSettings | enabledPeriods =>
    exact sparesLocale_ofExcept_bind fun _ _ => sparesLocale_pure _
  | prepared | dateOf | settings =>
    exact sparesLocale_ofExcept_bind fun _ _ => sparesLocale_ofExcept_bind fun _ _ =>
      sparesLocale_pure _
  | periodDate =>
    exact sparesLocale_ofExcept_bind fun _ _ => sparesLocale_ofExcept_bind fun _ _ =>
      sparesLocale_ofExcept_bind fun _ _ => sparesLocale_pure _
  | locale | digits | monthNames => exact absurd needsNone id
  | checkSettings choice =>
    refine sparesLocale_ofExcept_bind fun given _ => ?_
    cases given with
    | settings found => exact sparesLocale_ofExcept_bind fun _ _ => sparesLocale_pure _
    | value _ => exact sparesLocale_ofExcept _
  | sharedCalendar given =>
    exact sparesLocale_ofExcept_bind fun system _ =>
      (sparesLocale_noteCalendar system).bind fun _ _ _ =>
        sparesLocale_today.bind fun _ _ _ => sparesLocale_pure _
  | calendarToday choice =>
    refine choice.sparesLocale_resolve.bind fun _ calendar _ => ?_
    cases calendar with
    | ofSystem system today =>
      exact (Calendar.sparesLocale_clock today).bind fun _ _ _ => sparesLocale_pure _
    | echo => exact sparesLocale_ofExcept _
  | date choice patterns =>
    refine (DateChoice.sparesLocale_resolve needsNone).bind fun _ found answered => ?_
    rw [DateChoice.system_of_resolve needsNone answered]
    exact sparesLocale_localeFor_gregorian.bind fun _ _ _ => sparesLocale_pure _
  | sameDate left right =>
    refine (DateChoice.sparesLocale_resolve needsNone.1).bind fun _ found _ => ?_
    cases right with
    | none => exact sparesLocale_pure _
    | some right =>
      exact (DateChoice.sparesLocale_resolve (needsNone.2 right rfl)).bind fun _ _ _ =>
        sparesLocale_pure _
  | dateText order =>
    exact (DateOrder.sparesLocale_dateText needsNone).bind fun _ _ _ => sparesLocale_pure _
  | notePath base order =>
    exact (DateOrder.sparesLocale_notePath needsNone base).bind fun _ _ _ => sparesLocale_pure _
  | isNotePath base order path =>
    exact (DateOrder.sparesLocale_isNotePath needsNone base path).bind fun _ _ _ =>
      sparesLocale_pure _
  | roundTrip base order =>
    exact (DateOrder.sparesLocale_notePath needsNone base).bind fun _ path _ =>
      sparesLocale_ofExcept_bind fun _ _ => sparesLocale_ofExcept_bind fun _ _ =>
        (DateOrder.sparesLocale_isNotePath needsNone base path).bind fun _ _ _ =>
          sparesLocale_pure _
  | periodPath period given choice calendar =>
    exact sparesLocale_ofExcept_bind fun period _ =>
      (CalendarChoice.sparesLocale_resolve? calendar).bind fun _ resolved answered =>
        sparesLocale_ofExcept_bind fun settings accepted =>
          (Note.sparesLocale_path
            (fun system chosen => CalendarChoice.isGregorianOr_of_resolve? needsNone answered
              (eq_gregorian accepted chosen))
            period given).bind fun _ _ _ => sparesLocale_pure _
  | isPeriodPath period given choice calendar path =>
    exact sparesLocale_ofExcept_bind fun period _ =>
      (CalendarChoice.sparesLocale_resolve? calendar).bind fun _ resolved answered =>
        sparesLocale_ofExcept_bind fun settings accepted =>
          (Note.sparesLocale_isPath
            (fun system chosen => CalendarChoice.isGregorianOr_of_resolve? needsNone answered
              (eq_gregorian accepted chosen))
            period given path).bind fun _ _ _ => sparesLocale_pure _

end Daybook
