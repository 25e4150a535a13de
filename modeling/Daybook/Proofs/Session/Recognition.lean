import Daybook.Proofs.Note
import Daybook.Session.Request

/-!
Contract: the path of a period's note, and the test for it, agree in every session.

Owns:
- the test for a note as a comparison with its path, where notes of the period are kept;
- carrying out work in a session step by step;
- the steps that both requests begin with, and the ways in which those end;
- when quarterly notes are turned off;
- what the test answers where the path is found, turned off, or fails otherwise.

Does not own: which path a note has, or which settings are valid.
-/

namespace Daybook

namespace Note

variable
  {settings : Settings}
  {period : Period}
  (calendar : Option Calendar)
  (parts : DateParts)
  (file : Text)

theorem isEnabled_eq_false_iff :
    settings.isEnabled period = false ↔
      period = .quarterly ∧ settings.isOn Settings.quarterlyName = false := by
  cases period <;> simp [Settings.isEnabled]

/-- Where notes of a period are kept, the test finds the path and compares with it. -/
theorem isPath_of_isEnabled (isEnabled : settings.isEnabled period = true) :
    isPath settings calendar period parts file =
      (do pure (file == (← path settings calendar period parts))) := by
  unfold isPath path
  rw [if_pos isEnabled, if_pos isEnabled]
  cases settings.system with
  | error fault => rfl
  | ok system =>
    cases settings.folder period with
    | error fault => rfl
    | ok folder =>
      cases settings.pattern period with
      | error fault => rfl
      | ok pattern => rfl

/-- Where notes of a period are not kept, the test looks at nothing else. -/
theorem isPath_of_not_isEnabled (notEnabled : settings.isEnabled period = false) :
    isPath settings calendar period parts file = pure false := by
  rw [isPath, notEnabled, if_neg Bool.false_ne_true]

theorem path_of_not_isEnabled (notEnabled : settings.isEnabled period = false) :
    path settings calendar period parts = Consultation.ofExcept (.error .quarterlyNotesOff) := by
  rw [path, notEnabled, if_neg Bool.false_ne_true]

end Note

namespace Session

/-! ### Work, step by step -/

section Steps

variable
  {α β : Type}
  {session after : Session}
  {work : Consultation α}

theorem marked_marked
    (session : Session)
    (first second : Footprint) :
    (session.marked first).marked second = session.marked (first.union second) := by
  unfold marked Footprint.union effectiveLocale
  cases first.usesLocale <;> cases second.usesLocale <;> simp [Bool.or_assoc]

@[simp] theorem consult_pure
    (session : Session)
    (value : α) :
    session.consult (pure value : Consultation α) = (.ok value, session) := by
  simp [consult]

@[simp] theorem consult_ofExcept
    (session : Session)
    (result : Except Fault α) :
    session.consult (Consultation.ofExcept result) = (result, session) := by
  simp [consult]

theorem exists_consult_of_answer
    {result : Except Fault α}
    (answered : work.answer session.surroundings = result) :
    ∃ after, session.consult work = (result, after) :=
  ⟨session.marked (work.footprint session.surroundings), answered ▸ rfl⟩

/-- Work after other work is carried out in the session which that leaves. -/
theorem consult_bind_ok
    {value : α}
    (done : session.consult work = (.ok value, after))
    (next : α → Consultation β) :
    session.consult (work >>= next) = after.consult (next value) := by
  obtain ⟨answered, rfl⟩ := Prod.mk.inj done
  unfold consult
  rw [Consultation.answer_bind, Consultation.footprint_bind, answered, surroundings_marked,
    marked_marked]
  rfl

theorem consult_bind_error
    {fault : Fault}
    (failed : session.consult work = (.error fault, after))
    (next : α → Consultation β) :
    session.consult (work >>= next) = (.error fault, after) := by
  obtain ⟨answered, rfl⟩ := Prod.mk.inj failed
  unfold consult
  rw [Consultation.answer_bind, Consultation.footprint_bind, answered, Footprint.union_nothing]
  rfl

end Steps

/-! ### The beginning of both requests -/

/-- Work with the notes of a period: the period, the calendar and the settings are looked at in that
order, before anything is done with them. -/
def noteWork
    (store : Store)
    (given : Value)
    (calendar : Option CalendarChoice)
    (choice : SettingsChoice)
    (finish : Settings → Option Calendar → Period → Consultation Answer) :
    Consultation Answer := do
  let period ← Consultation.ofExcept (Period.ofValue given)
  let source ← CalendarChoice.resolve? calendar
  let settings ← Consultation.ofExcept (choice.accept store)
  finish settings source period

section Requests

variable
  (session : Session)
  (given : Value)
  (parts : DateParts)
  (choice : SettingsChoice)
  (calendar : Option CalendarChoice)

theorem perform_periodPath_eq :
    session.perform (.ask (.periodPath given parts choice calendar)) =
      session.consult (noteWork session.store given calendar choice
        fun settings source period => do pure (.text (← Note.path settings source period parts))) :=
  rfl

theorem perform_isPeriodPath_eq (file : Text) :
    session.perform (.ask (.isPeriodPath given parts choice calendar file)) =
      session.consult (noteWork session.store given calendar choice
        fun settings source period => do
          pure (.truth (← Note.isPath settings source period parts file))) :=
  rfl

/-- Once the beginning succeeds, only what follows is left to do. -/
theorem consult_noteWork
    {session after : Session}
    {given : Value}
    {choice : SettingsChoice}
    {calendar : Option CalendarChoice}
    {period : Period}
    {source : Option Calendar}
    {settings : Settings}
    (periodFound : Period.ofValue given = .ok period)
    (calendarFound : session.consult (CalendarChoice.resolve? calendar) = (.ok source, after))
    (settingsFound : choice.accept session.store = .ok settings)
    (finish : Settings → Option Calendar → Period → Consultation Answer) :
    session.consult (noteWork session.store given calendar choice finish) =
      after.consult (finish settings source period) := by
  unfold noteWork
  rw [periodFound, settingsFound, consult_bind_ok (session.consult_ofExcept (.ok period)),
    consult_bind_ok calendarFound, consult_bind_ok (after.consult_ofExcept (.ok settings))]

/-- The beginning fails the same way for both requests, or it succeeds. -/
theorem consult_noteWork_cases :
    (∃ fault after, ∀ finish,
        session.consult (noteWork session.store given calendar choice finish) =
          (.error fault, after)) ∨
      ∃ period source settings after, Period.ofValue given = .ok period ∧
        session.consult (CalendarChoice.resolve? calendar) = (.ok source, after) ∧
        choice.accept session.store = .ok settings := by
  cases periodFound : Period.ofValue given with
  | error fault =>
    refine .inl ⟨fault, session, fun finish => ?_⟩
    rw [noteWork, periodFound]
    exact consult_bind_error (session.consult_ofExcept _) _
  | ok period =>
    cases calendarFound : session.consult (CalendarChoice.resolve? calendar) with
    | mk result after =>
      cases result with
      | error fault =>
        refine .inl ⟨fault, after, fun finish => ?_⟩
        rw [noteWork, periodFound, consult_bind_ok (session.consult_ofExcept (.ok period))]
        exact consult_bind_error calendarFound _
      | ok source =>
        cases settingsFound : choice.accept session.store with
        | error fault =>
          refine .inl ⟨fault, after, fun finish => ?_⟩
          rw [noteWork, periodFound, settingsFound,
            consult_bind_ok (session.consult_ofExcept (.ok period)),
            consult_bind_ok calendarFound]
          exact consult_bind_error (after.consult_ofExcept _) _
        | ok settings => exact .inr ⟨period, source, settings, after, rfl, rfl, rfl⟩

/-! ### The path and the test -/

/-- Whether a request is for quarterly notes and valid settings turn those off. -/
structure TurnsOff : Prop where
  isQuarterly : Period.ofValue given = .ok .quarterly
  hasCalendar : ∃ source, (session.consult (CalendarChoice.resolve? calendar)).1 = .ok source
  isOff : ∃ settings, choice.accept session.store = .ok settings ∧
    settings.isOn Settings.quarterlyName = false

theorem perform_of_turnsOff
    (turnsOff : session.TurnsOff given choice calendar) :
    session.perform (.ask (.periodPath given parts choice calendar)) =
        (.error .quarterlyNotesOff, (session.consult (CalendarChoice.resolve? calendar)).2) ∧
      ∀ file, session.perform (.ask (.isPeriodPath given parts choice calendar file)) =
        (.ok (.truth false), (session.consult (CalendarChoice.resolve? calendar)).2) := by
  obtain ⟨isQuarterly, ⟨source, calendarFound⟩, settings, settingsFound, isOff⟩ := turnsOff
  have found : session.consult (CalendarChoice.resolve? calendar) =
      (.ok source, (session.consult (CalendarChoice.resolve? calendar)).2) :=
    Prod.ext calendarFound rfl
  have notEnabled := Note.isEnabled_eq_false_iff.2 ⟨rfl, isOff⟩
  constructor
  · rw [perform_periodPath_eq, consult_noteWork isQuarterly found settingsFound,
      Note.path_of_not_isEnabled _ _ notEnabled]
    exact consult_bind_error (consult_ofExcept _ _) _
  · intro file
    rw [perform_isPeriodPath_eq, consult_noteWork isQuarterly found settingsFound,
      Note.isPath_of_not_isEnabled _ _ _ notEnabled]
    exact (consult_bind_ok (consult_pure _ false) _).trans (consult_pure _ _)

/-- Unless notes are turned off, the test answers by comparison with the path, and fails where the
path does. -/
theorem perform_isPeriodPath_of_not_turnsOff
    (turnedOn : ¬ session.TurnsOff given choice calendar) :
    (∃ path after,
        session.perform (.ask (.periodPath given parts choice calendar)) =
            (.ok (.text path), after) ∧
          ∀ file, session.perform (.ask (.isPeriodPath given parts choice calendar file)) =
            (.ok (.truth (decide (file = path))), after)) ∨
      ∃ fault after,
        session.perform (.ask (.periodPath given parts choice calendar)) = (.error fault, after) ∧
          ∀ file, session.perform (.ask (.isPeriodPath given parts choice calendar file)) =
            (.error fault, after) := by
  rcases session.consult_noteWork_cases given choice calendar with
    ⟨fault, after, fails⟩ | ⟨period, source, settings, after, periodFound, found, settingsFound⟩
  · exact .inr ⟨fault, after, fails _, fun file => fails _⟩
  · have isEnabled : settings.isEnabled period = true := by
      refine Bool.of_not_eq_false fun notEnabled => turnedOn ?_
      obtain ⟨rfl, isOff⟩ := Note.isEnabled_eq_false_iff.1 notEnabled
      exact ⟨periodFound, ⟨source, by rw [found]⟩, settings, settingsFound, isOff⟩
    simp only [perform_periodPath_eq, perform_isPeriodPath_eq,
      consult_noteWork periodFound found settingsFound,
      Note.isPath_of_isEnabled source parts _ isEnabled]
    cases shown : after.consult (Note.path settings source period parts) with
    | mk result last =>
      cases result with
      | error fault =>
        refine .inr ⟨fault, last, consult_bind_error shown _, fun file => ?_⟩
        exact consult_bind_error (consult_bind_error shown _) _
      | ok path =>
        refine .inl ⟨path, last, ?_, fun file => ?_⟩
        · exact (consult_bind_ok shown _).trans (consult_pure _ _)
        · have same : (file == path) = decide (file = path) := by
            rw [Bool.eq_iff_iff, beq_iff_eq, decide_eq_true_iff]
          have compared : after.consult
              (do pure (file == (← Note.path settings source period parts))) =
                (.ok (decide (file = path)), last) := by
            rw [consult_bind_ok shown, consult_pure, same]
          exact (consult_bind_ok compared _).trans (consult_pure _ _)

/-- In every session the test for a period's note agrees with its path: it singles out the path
where there is one, knows no path for quarterly notes that are turned off, without looking for a
date, and fails in the same way otherwise. -/
theorem isPeriodPath_agrees :
    (∀ answer after,
      session.perform (.ask (.periodPath given parts choice calendar)) = (.ok answer, after) →
        ∃ path, answer = .text path ∧
          ∀ file, session.perform (.ask (.isPeriodPath given parts choice calendar file)) =
            (.ok (.truth (decide (file = path))), after)) ∧
      (session.TurnsOff given choice calendar →
        session.perform (.ask (.periodPath given parts choice calendar)) =
            (.error .quarterlyNotesOff, (session.consult (CalendarChoice.resolve? calendar)).2) ∧
          Fault.category .quarterlyNotesOff = .value ∧
          ∀ file, session.perform (.ask (.isPeriodPath given parts choice calendar file)) =
            (.ok (.truth false), (session.consult (CalendarChoice.resolve? calendar)).2)) ∧
      ∀ fault after,
        session.perform (.ask (.periodPath given parts choice calendar)) = (.error fault, after) →
        ¬ session.TurnsOff given choice calendar →
          ∀ file, session.perform (.ask (.isPeriodPath given parts choice calendar file)) =
            (.error fault, after) := by
  refine ⟨fun answer after asked => ?_, fun turnsOff => ?_, fun fault after asked turnedOn => ?_⟩
  · have turnedOn : ¬ session.TurnsOff given choice calendar := by
      intro turnsOff
      rw [(session.perform_of_turnsOff given parts choice calendar turnsOff).1] at asked
      cases asked
    rcases session.perform_isPeriodPath_of_not_turnsOff given parts choice calendar turnedOn with
      ⟨path, last, found, tested⟩ | ⟨fault, last, failed, -⟩
    · rw [found] at asked
      cases asked
      exact ⟨path, rfl, tested⟩
    · rw [failed] at asked
      cases asked
  · obtain ⟨asked, tested⟩ := session.perform_of_turnsOff given parts choice calendar turnsOff
    exact ⟨asked, rfl, tested⟩
  · rcases session.perform_isPeriodPath_of_not_turnsOff given parts choice calendar turnedOn with
      ⟨path, last, found, -⟩ | ⟨fault, last, failed, tested⟩
    · rw [found] at asked
      cases asked
    · rw [failed] at asked
      cases asked
      exact tested

end Requests

/-- A day's note in standard settings, quarterly notes that are turned off, and a period that there
is not. -/
theorem isPeriodPath_agrees_start :
    let session : Session := .start ⟨739195, by decide, by decide⟩
    let parts : DateParts := ⟨1403, some 8, some 15, none, none⟩
    let noQuarters : SettingsChoice := .value (.record [(Settings.quarterlyName, .bool false)])
    (∃ after,
      session.perform (.ask (.isPeriodPath (.text "daily".toList) parts (.value .null) none
        "1403-08-15.md".toList)) = (.ok (.truth true), after) ∧
      session.perform (.ask (.isPeriodPath (.text "daily".toList) parts (.value .null) none
        "1403-08-16.md".toList)) = (.ok (.truth false), after)) ∧
      session.perform (.ask (.isPeriodPath (.text "quarterly".toList) parts noQuarters none
        "1403-Q3.md".toList)) = (.ok (.truth false), session) ∧
      session.perform (.ask (.isPeriodPath (.text "hourly".toList) parts (.value .null) none
        [])) = (.error (.unknownPeriod (.text "hourly".toList)), session) := by
  intro session parts noQuarters
  have written :
      (Note.path Settings.standard none .daily ⟨1403, some 8, some 15, none, none⟩).answer
          ⟨⟨739195, by decide, by decide⟩, .standard⟩ =
        .ok "1403-08-15.md".toList := by
    have system : Settings.standard.system = .ok .solar := rfl
    have folder : Settings.standard.folder .daily = .ok [] := rfl
    have kept : Settings.standard.pattern .daily =
        .ok (some (Settings.defaultPattern .daily)) := rfl
    rw [Note.answer_path rfl system folder kept, ← Note.source_defaultLayout,
      Path.notePath_source_eq_ok_iff (Calendar.standsFor_none .solar) (by decide) (by decide)]
    exact ⟨by decide, ⟨.solar, ⟨739195, by decide, by decide⟩⟩, "1403-08-15".toList, by rfl, by rfl,
      by rfl⟩
  obtain ⟨after, shown⟩ : ∃ after,
      session.consult (Note.path Settings.standard none .daily parts) =
        (.ok "1403-08-15.md".toList, after) :=
    exists_consult_of_answer written
  have found :
      session.perform (.ask (.periodPath (.text "daily".toList) parts (.value .null) none)) =
        (.ok (.text "1403-08-15.md".toList), after) := by
    have isPeriod : Period.ofValue (.text "daily".toList) = .ok .daily := rfl
    have noCalendar : session.consult (CalendarChoice.resolve? none) = (.ok none, session) :=
      consult_pure session none
    have standard : SettingsChoice.accept session.store (.value .null) = .ok .standard := rfl
    rw [perform_periodPath_eq, consult_noteWork isPeriod noCalendar standard,
      consult_bind_ok shown, consult_pure]
  obtain ⟨path, same, tested⟩ := (session.isPeriodPath_agrees _ _ _ _).1 _ _ found
  cases same
  have turnsOff : session.TurnsOff (.text "quarterly".toList) noQuarters none :=
    ⟨rfl, ⟨none, rfl⟩, ⟨_, rfl, rfl⟩⟩
  have unknown : ¬ session.TurnsOff (.text "hourly".toList) (.value .null) none := by
    intro turnsOff
    cases turnsOff.isQuarterly
  refine ⟨⟨_, tested _, tested _⟩, ?_, ?_⟩
  · exact ((session.isPeriodPath_agrees _ parts _ _).2.1 turnsOff).2.2 _
  · exact (session.isPeriodPath_agrees _ parts _ _).2.2 _ _ rfl unknown _

end Session

end Daybook
