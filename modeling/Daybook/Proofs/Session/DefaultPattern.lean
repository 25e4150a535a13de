import Daybook.Proofs.Session.Recognition
import Daybook.Proofs.Settings.Validation

/-!
Contract: the ways of asking for a note without a pattern of one's own agree.

Owns:
- the default pattern of parts as that of the period that they belong to;
- patterns that count as none, and what they leave to the path of a note;
- settings that keep the notes of a period in a folder without a pattern of their own;
- the requests for the path of a note: with a blank pattern, with the default one, and by the
  period.

Does not own: what the default patterns look like, or which date parts stand for.
-/

namespace Daybook

/-! ### The default pattern -/

/-- The pattern that suits parts is the default one of the notes that are kept for them. -/
theorem Settings.defaultPattern_ofGrain (parts : DateParts) :
    defaultPattern (Period.ofGrain parts.grain) = parts.defaultPattern := by
  unfold DateParts.grain DateParts.defaultPattern
  split
  · rfl
  split
  · rfl
  split
  · rfl
  split
  · rfl
  · rfl

namespace Path

/-- A pattern that leaves everything to the given one: a blank one, or that one itself. -/
def LeavesTo (usual pattern : Text) : Prop :=
  Text.isBlankText pattern = true ∨ pattern = usual

variable
  {pattern : Text}
  {parts : DateParts}

theorem isUnset_some (pattern : Text) : isUnset (some pattern) = Text.isBlankText pattern :=
  rfl

theorem isBlankText_defaultPattern (parts : DateParts) :
    Text.isBlankText parts.defaultPattern = false := by
  have table : ∀ listed ∈ standardPatterns, Text.isBlankText listed = false := by decide
  exact table parts.defaultPattern (defaultPattern_mem parts)

/-- The default pattern is chosen without a word. -/
theorem choosePattern_defaultPattern (parts : DateParts) :
    choosePattern (some parts.defaultPattern) parts = .ok parts.defaultPattern := by
  have notBlank := isBlankText_defaultPattern parts
  rw [choosePattern, isUnset_some, notBlank, effectivePattern_of_not_blank notBlank]
  rfl

/-- A blank pattern leaves the choice to the default one, which is noted with all numbers. -/
theorem choosePattern_of_blank
    (blank : Text.isBlankText pattern = true)
    (parts : DateParts) :
    choosePattern (some pattern) parts =
      (Fault.writing parts.numbers).map fun _ => parts.defaultPattern := by
  rw [choosePattern, isUnset_some, blank, if_pos rfl, effectivePattern, blank, if_pos rfl]
  cases Fault.writing parts.numbers <;> rfl

section Base

variable
  (system : CalendarSystem)
  (calendar : Option Calendar)
  (base : Text)

/-- Only the pattern that is chosen counts for the path of a note. -/
theorem notePath_congr
    {other : Text}
    (same : choosePattern (some pattern) parts = choosePattern (some other) parts) :
    notePath system calendar base (some pattern) parts =
      notePath system calendar base (some other) parts := by
  unfold notePath dateText
  rw [same]

/-- The path of a note is the same for all blank patterns. -/
theorem notePath_of_blank
    {other : Text}
    (blank : Text.isBlankText pattern = true)
    (otherBlank : Text.isBlankText other = true) :
    notePath system calendar base (some pattern) parts =
      notePath system calendar base (some other) parts := by
  refine notePath_congr system calendar base ?_
  rw [choosePattern_of_blank blank, choosePattern_of_blank otherBlank]

/-- The path of a note is the same for all patterns that leave it to the default one, if its numbers
can be written. -/
theorem notePath_of_leavesTo
    (leaves : LeavesTo parts.defaultPattern pattern)
    (writable : ∀ n ∈ parts.numbers, Text.isWritable n = true) :
    notePath system calendar base (some pattern) parts =
      notePath system calendar base (some parts.defaultPattern) parts := by
  obtain blank | rfl := leaves
  · refine notePath_congr system calendar base ?_
    rw [choosePattern_of_blank blank, Fault.writing_of_writable writable,
      choosePattern_defaultPattern]
    rfl
  · rfl

/-- A blank pattern leaves no path to a note with a number that is too long to be written. -/
theorem notePath_of_not_writable
    (blank : Text.isBlankText pattern = true)
    (unwritable : ¬ ∀ n ∈ parts.numbers, Text.isWritable n = true) :
    notePath system calendar base (some pattern) parts =
      Consultation.ofExcept (.error .unwritable) := by
  unfold notePath dateText
  rw [choosePattern_of_blank blank, Fault.writing_of_not_writable unwritable]
  rfl

end Base

end Path

/-! ### Settings without a pattern of their own -/

namespace Settings

/-- Settings under which notes are kept for a period, dated in a calendar system, lying in a folder,
and named by a pattern that was left at its default or set to a blank one. -/
structure KeepDefault
    (settings : Settings)
    (period : Period)
    (system : CalendarSystem)
    (folder : Text) :
    Prop where
  isEnabled : settings.isEnabled period = true
  hasSystem :
    ∃ given, settings.get? calendarName = some given ∧ CalendarSystem.ofValue? given = some system
  hasFolder : settings.get? (folderName period) = some (.text folder)
  hasPattern :
    ∃ pattern, settings.get? (patternName period) = some (.text pattern) ∧
      Path.LeavesTo (defaultPattern period) pattern

/-- The note of the period of some parts has the path in the pattern of the settings, which leaves
it to the default one. -/
theorem KeepDefault.path
    {settings : Settings}
    {parts : DateParts}
    {system : CalendarSystem}
    {folder : Text}
    (keep : settings.KeepDefault (Period.ofGrain parts.grain) system folder)
    {pattern : Text}
    (given : settings.get? (patternName (Period.ofGrain parts.grain)) = some (.text pattern))
    (calendar : Option Calendar) :
    Note.path settings calendar (Period.ofGrain parts.grain) parts =
      Path.notePath system calendar folder (some pattern) parts := by
  obtain ⟨isEnabled, ⟨calendarGiven, calendarFound, chosen⟩, folderFound, -⟩ := keep
  have systemSet : settings.system = .ok system := by
    simp only [Settings.system, calendarFound, Option.getD_some, chosen]
  have folderSet : settings.folder (Period.ofGrain parts.grain) = .ok folder := by
    simp only [Settings.folder, folderFound]
  have patternSet : settings.pattern (Period.ofGrain parts.grain) = .ok (some pattern) := by
    simp only [Settings.pattern, given]
  rw [Note.path, if_pos isEnabled, systemSet, folderSet, patternSet]
  rfl

/-- The changes that set the calendar system, and the folder and the pattern of a period. -/
def noteChanges (period : Period) (system : CalendarSystem) (folder pattern : Text) : Record :=
  [(calendarName, .text system.name), (folderName period, .text folder),
    (patternName period, .text pattern)]

section NoteChanges

variable
  (period : Period)
  (system : CalendarSystem)
  (folder pattern : Text)

theorem nodup_noteChanges : (Record.names (noteChanges period system folder pattern)).Nodup := by
  have table :
      ∀ period ∈ Period.all, [calendarName, folderName period, patternName period].Nodup := by
    decide
  exact table period period.mem_all

/-- The settings of a period are texts of any kind. -/
theorem suits_text_of_period
    {name : Text}
    (ofPeriod : name ∈ [folderName period, patternName period])
    (text : Text) :
    Suits name (.text text) := by
  have table :
      ∀ period ∈ Period.all, ∀ name ∈ [folderName period, patternName period],
        name ∈ Record.names defaults ∧ ¬ IsSwitch name ∧ name ≠ calendarName ∧
          name ≠ dialectName := by
    decide
  obtain ⟨known, noSwitch, noCalendar, noDialect⟩ := table period period.mem_all name ofPeriod
  exact
    { known := known
      ofSwitch := fun isSwitch => absurd isSwitch noSwitch
      ofText := fun _ => ⟨text, rfl⟩
      ofCalendar := fun isCalendar => absurd isCalendar noCalendar
      ofDialect := fun isDialect => absurd isDialect noDialect }

theorem suits_calendarName : Suits calendarName (.text system.name) where
  known := by decide
  ofSwitch := fun isSwitch => absurd isSwitch (by decide)
  ofText := fun _ => ⟨system.name, rfl⟩
  ofCalendar := fun _ => ⟨system, CalendarSystem.ofValue?_name system⟩
  ofDialect := fun isDialect => absurd isDialect (by decide)

theorem suit_noteChanges :
    ∀ field ∈ noteChanges period system folder pattern, Suits field.1 field.2 := by
  intro field member
  simp only [noteChanges, List.mem_cons, List.not_mem_nil, or_false] at member
  obtain rfl | rfl | rfl := member
  · exact suits_calendarName system
  · exact suits_text_of_period period List.mem_cons_self folder
  · exact suits_text_of_period period (List.mem_cons_of_mem _ List.mem_cons_self) pattern

end NoteChanges

/-- Such changes are always accepted, and keep the notes of the period as they say. -/
theorem accept_noteChanges
    (period : Period)
    (system : CalendarSystem)
    (folder : Text)
    {pattern : Text}
    (leaves : Path.LeavesTo (defaultPattern period) pattern) :
    ∃ settings,
      accept (.value (.record (noteChanges period system folder pattern))) = .ok settings ∧
        settings.KeepDefault period system folder := by
  have distinct := nodup_noteChanges period system folder pattern
  have suit := suit_noteChanges period system folder pattern
  have given : ∀ name value, (name, value) ∈ noteChanges period system folder pattern →
      get? ⟨noteChanges period system folder pattern⟩ name = some value := by
    intro name value member
    rw [get?_of_nodup distinct, (Record.get?_eq_some_iff_mem distinct).2 member, Option.some_or]
  refine ⟨_, accept_of_suit distinct suit, ?_, ?_, ?_, ?_⟩
  · cases period <;> rfl
  · exact ⟨.text system.name, given _ _ (by simp [noteChanges]),
      CalendarSystem.ofValue?_name system⟩
  · exact given _ _ (by simp [noteChanges])
  · exact ⟨pattern, given _ _ (by simp [noteChanges]), leaves⟩

end Settings

/-! ### The requests -/

namespace Session

/-- Work that ends alike in two sessions ends alike with more work after it. -/
theorem consult_bind_congr
    {α β : Type}
    {session after : Session}
    {work other : Consultation α}
    (same : session.consult work = after.consult other)
    (next : α → Consultation β) :
    session.consult (work >>= next) = after.consult (other >>= next) := by
  cases done : after.consult other with
  | mk result last =>
    have alike := same.trans done
    cases result with
    | error fault => rw [consult_bind_error done, consult_bind_error alike]
    | ok value => rw [consult_bind_ok done, consult_bind_ok alike]

section Requests

variable
  {session after : Session}
  {system : CalendarSystem}
  {kind : Value}
  {folder : Text}
  {pattern : Option Text}
  {parts : DateParts}
  {calendar : Option CalendarChoice}

/-- Once the calendar is found, the path of a note is that of the system, the folder and the
pattern that are given. -/
theorem perform_notePath
    {source : Option Calendar}
    (calendarFound : session.consult (CalendarChoice.resolve? calendar) = (.ok source, after))
    (chosen : CalendarSystem.ofValue? kind = some system) :
    session.perform (.ask (.notePath (some folder) ⟨pattern, parts, kind, calendar⟩)) =
      after.consult (do pure (.text (← Path.notePath system source folder pattern parts))) := by
  have systemFound : Path.chooseSystem kind = .ok system := by rw [Path.chooseSystem, chosen]
  refine consult_bind_congr ?_ _
  have baseFound : Path.givenBase (some folder) = .ok folder := rfl
  rw [DateOrder.notePath, consult_bind_ok calendarFound, systemFound, baseFound,
    consult_bind_ok (after.consult_ofExcept (.ok folder)),
    consult_bind_ok (after.consult_ofExcept (.ok system))]

theorem perform_notePath_error
    {fault : Fault}
    (calendarFailed :
      session.consult (CalendarChoice.resolve? calendar) = (.error fault, after)) :
    session.perform (.ask (.notePath (some folder) ⟨pattern, parts, kind, calendar⟩)) =
      (.error fault, after) :=
  consult_bind_error (consult_bind_error calendarFailed _) _

/-- Requests with two patterns end alike if these give the same path in every calendar. -/
theorem perform_notePath_congr
    (chosen : CalendarSystem.ofValue? kind = some system)
    {pattern other : Option Text}
    (same : ∀ source,
      Path.notePath system source folder pattern parts =
        Path.notePath system source folder other parts) :
    session.perform (.ask (.notePath (some folder) ⟨pattern, parts, kind, calendar⟩)) =
      session.perform (.ask (.notePath (some folder) ⟨other, parts, kind, calendar⟩)) := by
  cases calendarFound : session.consult (CalendarChoice.resolve? calendar) with
  | mk result after =>
    cases result with
    | error fault =>
      rw [perform_notePath_error calendarFound, perform_notePath_error calendarFound]
    | ok source =>
      rw [perform_notePath calendarFound chosen, perform_notePath calendarFound chosen, same source]

/-- A blank pattern fails for a number that is too long, unless the calendar cannot be found. -/
theorem perform_notePath_of_not_writable
    (chosen : CalendarSystem.ofValue? kind = some system)
    {blank : Text}
    (isBlank : Text.isBlankText blank = true)
    (unwritable : ¬ ∀ n ∈ parts.numbers, Text.isWritable n = true) :
    let source := session.consult (CalendarChoice.resolve? calendar)
    session.perform (.ask (.notePath (some folder) ⟨some blank, parts, kind, calendar⟩)) =
      (source.1.bind fun _ => .error .unwritable, source.2) := by
  intro source
  cases calendarFound : source with
  | mk result after =>
    cases result with
    | error fault => exact perform_notePath_error calendarFound
    | ok given =>
      rw [perform_notePath calendarFound chosen,
        Path.notePath_of_not_writable system given folder isBlank unwritable]
      exact consult_bind_error (after.consult_ofExcept _) _

/-- The note of the period of some parts is asked for in the pattern of the settings. -/
theorem perform_periodPath_of_keepDefault
    (chosen : CalendarSystem.ofValue? kind = some system)
    {choice : SettingsChoice}
    {settings : Settings}
    (accepted : choice.accept session.store = .ok settings)
    (keep : settings.KeepDefault (Period.ofGrain parts.grain) system folder)
    {given : Text}
    (patternFound : settings.get? (Settings.patternName (Period.ofGrain parts.grain)) =
      some (.text given)) :
    session.perform (.ask (.periodPath (.text (Period.ofGrain parts.grain).name) parts choice
        calendar)) =
      session.perform (.ask (.notePath (some folder) ⟨some given, parts, kind, calendar⟩)) := by
  have isPeriod : Period.ofValue (.text (Period.ofGrain parts.grain).name) =
      .ok (Period.ofGrain parts.grain) := by
    rw [Period.ofValue, Period.ofValue?_name]
  cases calendarFound : session.consult (CalendarChoice.resolve? calendar) with
  | mk result after =>
    cases result with
    | error fault =>
      rw [perform_periodPath_eq, noteWork, isPeriod, perform_notePath_error calendarFound,
        consult_bind_ok (session.consult_ofExcept (.ok (Period.ofGrain parts.grain)))]
      exact consult_bind_error calendarFound _
    | ok source =>
      rw [perform_periodPath_eq, consult_noteWork isPeriod calendarFound accepted,
        keep.path patternFound, perform_notePath calendarFound chosen]

/-- Without a pattern of one's own it makes no difference to the path of a note, to its failure, or
to what is left in the session, whether it is asked for with a blank pattern, with the default
pattern of its parts, or as the note of their period under settings that leave that pattern to the
default, as long as all numbers of the parts can be written.  Where one of them is too long, a blank
pattern leaves no path, in the settings as in the request, and the default one is treated as
before. -/
theorem notePath_agrees
    {blank : Text}
    (isBlank : Text.isBlankText blank = true)
    (chosen : CalendarSystem.ofValue? kind = some system)
    {choice : SettingsChoice}
    {settings : Settings}
    (accepted : choice.accept session.store = .ok settings)
    (keep : settings.KeepDefault (Period.ofGrain parts.grain) system folder) :
    let ofPattern := fun pattern : Text =>
      session.perform (.ask (.notePath (some folder) ⟨some pattern, parts, kind, calendar⟩))
    let ofPeriod :=
      session.perform (.ask (.periodPath (.text (Period.ofGrain parts.grain).name) parts choice
        calendar))
    let source := session.consult (CalendarChoice.resolve? calendar)
    ((∀ n ∈ parts.numbers, Text.isWritable n = true) →
        ofPattern blank = ofPeriod ∧ ofPattern parts.defaultPattern = ofPeriod) ∧
      (¬ (∀ n ∈ parts.numbers, Text.isWritable n = true) →
        ofPattern blank = (source.1.bind fun _ => .error .unwritable, source.2)) ∧
      ∀ given, settings.get? (Settings.patternName (Period.ofGrain parts.grain)) =
          some (.text given) →
        ofPeriod = if Text.isBlankText given then ofPattern blank
          else ofPattern parts.defaultPattern := by
  intro ofPattern ofPeriod source
  have asGiven : ∀ given, settings.get? (Settings.patternName (Period.ofGrain parts.grain)) =
      some (.text given) → ofPeriod = ofPattern given :=
    fun given => perform_periodPath_of_keepDefault chosen accepted keep
  obtain ⟨pattern, patternFound, leaves⟩ := keep.hasPattern
  rw [Settings.defaultPattern_ofGrain] at leaves
  refine ⟨fun writable => ?_, perform_notePath_of_not_writable chosen isBlank,
    fun given givenFound => ?_⟩
  · have toDefault : ∀ other, Path.LeavesTo parts.defaultPattern other →
        ofPattern other = ofPattern parts.defaultPattern := fun other leavesTo =>
      perform_notePath_congr chosen fun source =>
        Path.notePath_of_leavesTo system source folder leavesTo writable
    rw [asGiven pattern patternFound, toDefault pattern leaves, toDefault blank (.inl isBlank)]
    exact ⟨rfl, rfl⟩
  · cases givenFound.symm.trans patternFound
    rw [asGiven pattern patternFound]
    split
    · rename_i givenBlank
      exact perform_notePath_congr chosen fun source =>
        Path.notePath_of_blank system source folder givenBlank isBlank
    · rename_i notBlank
      rw [leaves.resolve_left notBlank]

end Requests

/-- Parts with a week, a quarter and a month of zero, of which the week counts; a pattern of a wide
blank and a line break; and changes that set the pattern of weekly notes to the empty text. -/
theorem notePath_agrees_weekly :
    let session : Session := .start ⟨739195, by decide, by decide⟩
    let parts : DateParts := ⟨1403, some 0, none, some 7, some 2⟩
    let choice : SettingsChoice :=
      .value (.record (Settings.noteChanges .weekly .gregorian ['w'] []))
    ∃ settings,
      Text.isBlankText ['\u3000', '\n'] = true ∧
        CalendarSystem.ofValue? (.text " Georgian".toList) = some .gregorian ∧
        choice.accept session.store = .ok settings ∧
        settings.KeepDefault (Period.ofGrain parts.grain) .gregorian ['w'] ∧
        session.perform (.ask (.notePath (some ['w'])
            ⟨some ['\u3000', '\n'], parts, .text " Georgian".toList, none⟩)) =
          session.perform (.ask (.periodPath (.text "weekly".toList) parts choice none)) := by
  intro session parts choice
  have leaves : Path.LeavesTo (Settings.defaultPattern .weekly) [] := .inl rfl
  obtain ⟨settings, accepted, keep⟩ :=
    Settings.accept_noteChanges .weekly .gregorian ['w'] leaves
  have isBlank : Text.isBlankText ['\u3000', '\n'] = true := by decide
  have chosen : CalendarSystem.ofValue? (.text " Georgian".toList) = some .gregorian := by decide
  have resolved : choice.accept session.store = .ok settings := accepted
  have weekly : settings.KeepDefault (Period.ofGrain parts.grain) .gregorian ['w'] := keep
  exact ⟨settings, isBlank, chosen, resolved, weekly,
    ((notePath_agrees isBlank chosen resolved weekly).1 (by decide)).1⟩

/-- With a day, the week does not count; but if it is 10⁴³⁰⁰, the empty pattern fails for it, while
the default one gives a path. -/
theorem notePath_longWeek :
    let session : Session := .start ⟨739195, by decide, by decide⟩
    let parts : DateParts := ⟨1403, some 8, some 15, some (10 ^ Text.digitLimit), none⟩
    let ofPattern := fun pattern : Text =>
      (session.perform (.ask (.notePath (some [])
        ⟨some pattern, parts, .text "solar".toList, none⟩))).1
    ofPattern [] = .error .unwritable ∧
      ofPattern parts.defaultPattern = .ok (.text "1403-08-15.md".toList) := by
  intro session parts ofPattern
  have chosen : CalendarSystem.ofValue? (.text "solar".toList) = some .solar := by decide
  have noCalendar : session.consult (CalendarChoice.resolve? none) = (.ok none, session) :=
    consult_pure session none
  constructor
  · have unwritable : ¬ ∀ n ∈ parts.numbers, Text.isWritable n = true := by
      intro writable
      have short := writable (10 ^ Text.digitLimit) (by simp [parts, DateParts.numbers])
      rw [Text.not_isWritable_pow_digitLimit] at short
      cases short
    show (session.perform _).1 = _
    rw [perform_notePath noCalendar chosen,
      Path.notePath_of_not_writable .solar none [] rfl unwritable]
    exact congrArg Prod.fst (consult_bind_error (session.consult_ofExcept _) _)
  · have written :
        (Path.notePath .solar none [] (some parts.defaultPattern) parts).answer
            ⟨⟨739195, by decide, by decide⟩, .standard⟩ =
          .ok "1403-08-15.md".toList := by
      have source : parts.defaultPattern = (Note.defaultLayout .daily).source :=
        (Note.source_defaultLayout .daily).symm
      rw [source, Path.notePath_source_eq_ok_iff (Calendar.standsFor_none .solar)
        (Note.wellFormed_defaultLayout .solar .daily) (Note.isBlankText_defaultLayout .daily)]
      refine ⟨by simp [parts], ⟨.solar, ⟨739195, by decide, by decide⟩⟩, "1403-08-15".toList, ?_,
        by rfl, by rfl⟩
      show Date.ofParts .solar 1403 (some 8) 15 = _
      rfl
    obtain ⟨after, shown⟩ : ∃ after,
        session.consult (Path.notePath .solar none [] (some parts.defaultPattern) parts) =
          (.ok "1403-08-15.md".toList, after) :=
      exists_consult_of_answer written
    show (session.perform _).1 = _
    rw [perform_notePath noCalendar chosen, consult_bind_ok shown, consult_pure]

end Session

end Daybook
