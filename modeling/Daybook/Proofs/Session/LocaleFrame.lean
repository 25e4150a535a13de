import Daybook.Proofs.CommandLine.Reading
import Daybook.Proofs.Session.LocaleUse
import Daybook.Session.Request

/-!
Contract: which requests bring a locale into force, and which locale that is.

Owns:
- the requests that are there to choose a locale;
- what any other request leaves of the locale;
- what a choice of a locale leaves, and what a command line leaves;
- the locale and the shared calendars along whole runs.

Does not own: what a locale does to an answer.
-/

namespace Daybook

/-- Whether a request is there to choose a locale or to forget it.  Every command line chooses
one. -/
def Request.ChoosesLocale : Request → Prop
  | .chooseLocale _ | .configureLocale _ | .forgetLocale | .runLine _ => True
  | .ask _ | .makeSettings _ _ | .setToday _ => False

/-- Whether a request loads a locale that it is given. -/
def Request.LoadsLocale : Request → Prop
  | .chooseLocale _ | .configureLocale _ => True
  | _ => False

/-- Whether a request needs no locale, with the settings that are stored. -/
def Request.NeedsNoLocale (store : Store) : Request → Prop
  | .ask query => query.NeedsNoLocale store
  | .makeSettings _ _ | .setToday _ => True
  | _ => False

/-- What may become of a locale that nobody chooses: it stays what it is, and where there is none,
the standard one may come into force. -/
inductive LocaleKept : Option Locale → Option Locale → Prop where
  | same (locale : Option Locale) : LocaleKept locale locale
  | standard : LocaleKept none (some .standard)

theorem LocaleKept.trans
    {first second third : Option Locale}
    (start : LocaleKept first second)
    (later : LocaleKept second third) :
    LocaleKept first third := by
  cases start with
  | same => exact later
  | standard =>
    cases later
    exact .standard

namespace Session

/-! ### Work in a session -/

theorem localeKept_marked
    (session : Session)
    (used : Footprint) :
    LocaleKept session.locale (session.marked used).locale := by
  unfold marked effectiveLocale
  dsimp only
  split
  · cases session.locale with
    | none => exact .standard
    | some locale => exact .same (some locale)
  · exact .same session.locale

theorem locale_consult_of_sparesLocale
    {α : Type}
    (session : Session)
    {work : Consultation α}
    (spares : work.SparesLocale) :
    (session.consult work).2.locale = session.locale := by
  show (if (work.footprint session.surroundings).usesLocale then _ else session.locale) = _
  rw [spares session.surroundings, if_neg Bool.false_ne_true]

/-- A locale that is in force is the effective one and stays so. -/
theorem locale_consult_withLocale
    {α : Type}
    (session : Session)
    (locale : Locale)
    (work : Consultation α) :
    ((session.withLocale locale).consult work).2.locale = some locale := by
  have kept := localeKept_marked (session.withLocale locale)
    (work.footprint (session.withLocale locale).surroundings)
  show (Session.marked _ _).locale = some locale
  generalize (Session.marked _ _).locale = after at kept
  cases kept
  rfl

theorem hasShared_marked
    {session : Session}
    {system : CalendarSystem}
    (held : session.hasShared system = true)
    (used : Footprint) :
    (session.marked used).hasShared system = true := by
  cases system with
  | solar =>
    show (session.solarShared || used.usesSolar) = true
    rw [show session.solarShared = true from held, Bool.true_or]
  | gregorian =>
    show (session.gregorianShared || used.usesGregorian) = true
    rw [show session.gregorianShared = true from held, Bool.true_or]

/-! ### Requests that choose no locale -/

theorem locale_withStored
    (session : Session)
    (name : Option Text)
    (settings : Settings) :
    (session.withStored name settings).locale = session.locale := by
  cases name <;> rfl

theorem localeKept_perform
    (session : Session)
    {request : Request}
    (leaves : ¬ request.ChoosesLocale) :
    LocaleKept session.locale (session.perform request).2.locale := by
  cases request with
  | ask query => exact session.localeKept_marked _
  | makeSettings recipe name =>
    rw [perform]
    cases recipe.build session.store with
    | error fault => exact .same session.locale
    | ok settings =>
      dsimp only
      rw [locale_withStored]
      exact .same session.locale
  | setToday given =>
    rw [perform]
    cases given.resolve <;> exact .same session.locale
  | chooseLocale record => exact absurd trivial leaves
  | configureLocale choice => exact absurd trivial leaves
  | forgetLocale => exact absurd trivial leaves
  | runLine line => exact absurd trivial leaves

theorem locale_perform_of_needsNoLocale
    (session : Session)
    {request : Request}
    (needsNone : request.NeedsNoLocale session.store) :
    (session.perform request).2.locale = session.locale := by
  cases request with
  | ask query =>
    exact session.locale_consult_of_sparesLocale (query.sparesLocale_work session.store needsNone)
  | makeSettings recipe name =>
    rw [perform]
    cases recipe.build session.store with
    | error fault => rfl
    | ok settings => exact session.locale_withStored name settings
  | setToday given =>
    rw [perform]
    cases given.resolve <;> rfl
  | chooseLocale record => exact absurd needsNone id
  | configureLocale choice => exact absurd needsNone id
  | forgetLocale => exact absurd needsNone id
  | runLine line => exact absurd needsNone id

/-! ### Requests that choose one -/

/-- A locale is loaded whole, or the session stays as it was. -/
theorem chooseLocale_atomic
    (session : Session)
    (chosen : Except Fault Locale) :
    (∃ locale, session.chooseLocale chosen = (.ok (.locale locale), session.withLocale locale)) ∨
      ∃ fault, session.chooseLocale chosen = (.error fault, session) := by
  cases chosen with
  | ok locale => exact .inl ⟨locale, rfl⟩
  | error fault => exact .inr ⟨fault, rfl⟩

theorem perform_atomic
    (session : Session)
    {request : Request}
    (loads : request.LoadsLocale) :
    (∃ locale, session.perform request = (.ok (.locale locale), session.withLocale locale)) ∨
      ∃ fault, session.perform request = (.error fault, session) := by
  cases request with
  | chooseLocale record => exact session.chooseLocale_atomic (Locale.ofRecord record)
  | configureLocale choice => exact session.chooseLocale_atomic (session.localeOf choice)
  | ask query => exact absurd loads id
  | makeSettings recipe name => exact absurd loads id
  | forgetLocale => exact absurd loads id
  | runLine line => exact absurd loads id
  | setToday given => exact absurd loads id

theorem session_perform_of_unread
    (session : Session)
    {line : List Text}
    {ending : CommandLine.Ending}
    (unread : CommandLine.read line = .error ending) :
    (session.perform (.runLine line)).2 = session := by
  rw [perform, runLine, unread]

/-- A command line leaves the locale of its switches in force, whatever its command comes to; where
the dialect was left without a value there is no such locale. -/
theorem locale_perform_of_read
    (session : Session)
    {line : List Text}
    {invocation : CommandLine.Invocation}
    (read : CommandLine.read line = .ok invocation) :
    (∃ dialect : Dialect, invocation.leading.dialect = .text dialect.name ∧
        (session.perform (.runLine line)).2.locale =
          some ⟨invocation.leading.persianDigits, dialect⟩) ∨
      invocation.leading.dialect = CommandLine.noValue ∧
        (session.perform (.runLine line)).2 = session := by
  rcases (CommandLine.isSound_of_read read).leading with absent | ⟨dialect, named⟩
  · refine .inr ⟨absent, ?_⟩
    rw [perform, runLine, read]
    dsimp only
    rw [CommandLine.locale_of_noValue absent]
  · refine .inl ⟨dialect, named, ?_⟩
    rw [perform, runLine, read]
    dsimp only
    rw [CommandLine.locale_of_text named]
    exact session.locale_consult_withLocale _ _

/-! ### Shared calendars -/

theorem hasShared_chooseLocale
    (session : Session)
    (chosen : Except Fault Locale)
    (system : CalendarSystem) :
    (session.chooseLocale chosen).2.hasShared system = session.hasShared system := by
  cases chosen <;> cases system <;> rfl

theorem hasShared_perform
    {session : Session}
    {system : CalendarSystem}
    (held : session.hasShared system = true)
    (request : Request) :
    (session.perform request).2.hasShared system = true := by
  cases request with
  | ask query => exact hasShared_marked held _
  | makeSettings recipe name =>
    rw [perform]
    cases recipe.build session.store with
    | error fault => exact held
    | ok settings => cases name <;> cases system <;> exact held
  | chooseLocale record => exact (session.hasShared_chooseLocale _ system).trans held
  | configureLocale choice => exact (session.hasShared_chooseLocale _ system).trans held
  | forgetLocale => cases system <;> exact held
  | runLine line =>
    show (session.runLine line).2.hasShared system = true
    unfold runLine
    cases CommandLine.read line with
    | error ending => exact held
    | ok invocation =>
      dsimp only
      cases invocation.locale with
      | error fault => exact held
      | ok locale =>
        have heldAfter : (session.withLocale locale).hasShared system = true := by
          cases system <;> exact held
        exact hasShared_marked heldAfter _
  | setToday given =>
    rw [perform]
    cases given.resolve with
    | error fault => exact held
    | ok day => cases system <;> exact held

/-! ### Runs -/

/-- A shared calendar that was used once stays for the rest of a run. -/
theorem hasShared_run
    {session : Session}
    {system : CalendarSystem}
    (held : session.hasShared system = true)
    {requests : List Request}
    {outcome : Except Fault Answer × Session}
    (reached : outcome ∈ session.run requests) :
    outcome.2.hasShared system = true := by
  induction requests generalizing session with
  | nil => exact absurd reached List.not_mem_nil
  | cons request rest inductionHypothesis =>
    have after := hasShared_perform held request
    rcases List.mem_cons.1 reached with rfl | later
    · exact after
    · exact inductionHypothesis after later

/-- A run without a request that chooses a locale keeps the one that it starts with. -/
theorem localeKept_run
    {session : Session}
    {requests : List Request}
    (leave : ∀ request ∈ requests, ¬ request.ChoosesLocale)
    {outcome : Except Fault Answer × Session}
    (reached : outcome ∈ session.run requests) :
    LocaleKept session.locale outcome.2.locale := by
  induction requests generalizing session with
  | nil => exact absurd reached List.not_mem_nil
  | cons request rest inductionHypothesis =>
    have here := session.localeKept_perform (leave request List.mem_cons_self)
    rcases List.mem_cons.1 reached with rfl | later
    · exact here
    · exact here.trans (inductionHypothesis
        (fun other member => leave other (List.mem_cons_of_mem request member)) later)

/-! ### The frame of the locale -/

/-- Only a choice changes the locale.  Any other request leaves one that is in force, may bring the
standard one into force where there is none, and does not even do that where it needs no locale; a
run of such requests does no more.  A choice is made whole or not at all.  A command line that
cannot be read leaves the session as it was; one that can leaves the locale of its switches in
force, unless its dialect was left without a value.  Shared calendars stay shared. -/
theorem locale_frame :
    (∀ (session : Session) (request : Request), ¬ request.ChoosesLocale →
      LocaleKept session.locale (session.perform request).2.locale) ∧
    (∀ (session : Session) (request : Request), request.NeedsNoLocale session.store →
      (session.perform request).2.locale = session.locale) ∧
    (∀ (session : Session) (requests : List Request),
      (∀ request ∈ requests, ¬ request.ChoosesLocale) →
        ∀ outcome ∈ session.run requests, LocaleKept session.locale outcome.2.locale) ∧
    (∀ (session : Session) (request : Request), request.LoadsLocale →
      (∃ locale, session.perform request = (.ok (.locale locale), session.withLocale locale)) ∨
        ∃ fault, session.perform request = (.error fault, session)) ∧
    (∀ (session : Session) (line : List Text) (ending : CommandLine.Ending),
      CommandLine.read line = .error ending → (session.perform (.runLine line)).2 = session) ∧
    (∀ (session : Session) (line : List Text) (invocation : CommandLine.Invocation),
      CommandLine.read line = .ok invocation →
        (∃ dialect : Dialect, invocation.leading.dialect = .text dialect.name ∧
          (session.perform (.runLine line)).2.locale =
            some ⟨invocation.leading.persianDigits, dialect⟩) ∨
        invocation.leading.dialect = CommandLine.noValue ∧
          (session.perform (.runLine line)).2 = session) ∧
    ∀ (session : Session) (system : CalendarSystem), session.hasShared system = true →
      ∀ requests, ∀ outcome ∈ session.run requests, outcome.2.hasShared system = true := by
  refine ⟨?_, ?_, ?_, ?_, ?_, ?_, ?_⟩
  · intro session request leaves
    exact session.localeKept_perform leaves
  · intro session request needsNone
    exact session.locale_perform_of_needsNoLocale needsNone
  · intro session requests leave outcome reached
    exact localeKept_run leave reached
  · intro session request loads
    exact session.perform_atomic loads
  · intro session line ending unread
    exact session.session_perform_of_unread unread
  · intro session line invocation read
    exact session.locale_perform_of_read read
  · intro session system held requests outcome reached
    exact hasShared_run held reached

/-- A solar date brings the standard locale into force, a Gregorian one does not; a dialect that
there is not is refused whole, and a line about a year that there is not leaves its own locale. -/
theorem locale_frame_start :
    let session : Session := .start ⟨739195, by decide, by decide⟩
    let solar : Request :=
      .ask (.dateText ⟨none, ⟨1403, some 8, some 15, none, none⟩, .bool true, none⟩)
    let gregorian : Request :=
      .ask (.dateText ⟨none, ⟨2024, some 11, some 5, none, none⟩, .bool false, none⟩)
    let unknown : Request := .chooseLocale [(Locale.dialectField, .text "dari".toList)]
    let line := ["--dialect", "english", "format", "YYYY", "--year", "0"].map String.toList
    LocaleKept none (session.perform solar).2.locale ∧
      (session.perform gregorian).2.locale = none ∧
      (∀ outcome ∈ session.run [gregorian, solar], LocaleKept none outcome.2.locale) ∧
      (session.perform unknown).2 = session ∧
      (session.perform (.runLine ["extract".toList])).2 = session ∧
      (session.perform (.runLine line)).2.locale = some ⟨false, .english⟩ ∧
      ∀ outcome ∈ ({ session with solarShared := true } : Session).run [.forgetLocale, solar],
        outcome.2.hasShared .solar = true := by
  intro session solar gregorian unknown line
  obtain ⟨kept, spared, keptAlong, atomic, unread, chosen, shared⟩ := locale_frame
  have solarLeaves : ¬ solar.ChoosesLocale := id
  have gregorianLeaves : ¬ gregorian.ChoosesLocale := id
  have noneNeeded : gregorian.NeedsNoLocale session.store := by
    show CalendarSystem.IsNotSolar (.bool false)
    unfold CalendarSystem.IsNotSolar
    decide
  refine ⟨kept session solar solarLeaves, spared session gregorian noneNeeded, ?_, ?_, ?_, ?_, ?_⟩
  · refine keptAlong session [gregorian, solar] ?_
    rintro request (_ | ⟨_, _ | ⟨_, ⟨⟩⟩⟩)
    · exact gregorianLeaves
    · exact solarLeaves
  · rcases atomic session unknown trivial with ⟨locale, loaded⟩ | ⟨fault, refused⟩
    · cases loaded
    · exact congrArg Prod.snd refused
  · exact unread session ["extract".toList] .misuse rfl
  · rcases chosen session line
      ⟨⟨false, .text "english".toList⟩, .dateText (some "YYYY".toList)
        (CommandLine.dateRecord (.int 0) (.int 1) .null .null .null) (.text "solar".toList)⟩
      rfl with ⟨dialect, named, inForce⟩ | ⟨absent, _⟩
    · cases dialect with
      | persianModern => cases named
      | english => exact inForce
    · cases absent
  · exact shared { session with solarShared := true } .solar rfl _

/-- A dialect without a value is no misuse of the command line, yet no locale either: the line
leaves the locale as it was and not the one of its switches. -/
theorem locale_dialectWithoutValue :
    let session : Session := .start ⟨739195, by decide, by decide⟩
    let line := ["--persian-digits", "--dialect=--", "extract", "1403"].map String.toList
    CommandLine.read line =
        .ok ⟨⟨true, CommandLine.noValue⟩, .dateOf (some []) "1403".toList⟩ ∧
      (session.perform (.runLine line)).2.locale = none := by
  intro session line
  have digits : CommandLine.classify? CommandLine.leadingSwitches "--persian-digits".toList =
      some [.switch CommandLine.digitsSwitch] := by
    decide
  have dialect : CommandLine.classify? CommandLine.leadingSwitches "--dialect=--".toList =
      some [.attached CommandLine.dialectSwitch CommandLine.separatorText] := by
    decide +kernel
  have digitsTaken : CommandLine.Leading.standard.takeIn [.switch CommandLine.digitsSwitch] =
      pure ⟨true, CommandLine.Leading.standard.dialect⟩ := rfl
  have dialectTaken :
      CommandLine.Leading.takeIn ⟨true, CommandLine.Leading.standard.dialect⟩
          [.attached CommandLine.dialectSwitch CommandLine.separatorText] =
        pure ⟨true, CommandLine.noValue⟩ := rfl
  have command :
      CommandLine.readFrom ⟨true, CommandLine.noValue⟩ ["extract".toList, "1403".toList] =
        .ok ⟨⟨true, CommandLine.noValue⟩, .dateOf (some []) "1403".toList⟩ := rfl
  have read : CommandLine.read line =
      .ok ⟨⟨true, CommandLine.noValue⟩, .dateOf (some []) "1403".toList⟩ := by
    show CommandLine.readFrom .standard
      ["--persian-digits".toList, "--dialect=--".toList, "extract".toList, "1403".toList] = _
    rw [CommandLine.readFrom, if_neg (by decide), digits]
    dsimp only
    rw [if_neg (by decide), digitsTaken, pure_bind, CommandLine.readFrom, if_neg (by decide),
      dialect]
    dsimp only
    rw [if_neg (by decide), dialectTaken, pure_bind]
    exact command
  refine ⟨read, ?_⟩
  rcases session.locale_perform_of_read read with ⟨dialect, named, _⟩ | ⟨_, unchanged⟩
  · cases named
  · exact congrArg Session.locale unchanged

end Session

end Daybook
