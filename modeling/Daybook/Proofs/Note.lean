import Daybook.Note
import Daybook.Proofs.Path.RoundTrip

/-!
Contract: the notes of a period in its default pattern.

Owns:
- the parts that suit a period, and the parts that the path of its note shows;
- the default patterns as rows of segments;
- the round trip of every period through the path of its note.

Does not own: patterns that settings change, or whether settings are valid.
-/

namespace Daybook.Note

open Pattern

/-- Whether parts are such as a note of the period is kept for. -/
def Suits (period : Period) (parts : DateParts) : Prop :=
  match period with
  | .daily => parts.day.isSome = true
  | .weekly => parts.day = none ∧ parts.week.isSome = true
  | .monthly =>
    parts.day = none ∧ parts.week = none ∧ parts.quarter = none ∧
      ∃ month, parts.month = some month ∧ 1 ≤ month ∧ month ≤ 12
  | .quarterly =>
    parts.day = none ∧ parts.week = none ∧
      ∃ quarter, parts.quarter = some quarter ∧ 0 ≤ quarter ∧ quarter ≤ 9
  | .yearly => parts.day = none ∧ parts.week = none ∧ parts.quarter = none

/-- The parts that the path of a period's note shows, for the parts that the note was asked for.
Only a week is shown otherwise than it was asked for: by the date that the calendar gives for it. -/
inductive Shows (calendar : Calendar) (surroundings : Surroundings) :
    Period → DateParts → DateParts → Prop where
  | daily (parts : DateParts) :
    Shows calendar surroundings .daily parts ⟨parts.year, parts.month, parts.day, none, none⟩
  | weekly
    {parts : DateParts}
    {asked : Int}
    {date : Date}
    {fields : DateFields}
    {week : Nat}
    (isAsked : parts.week = some asked)
    (found : (calendar.atWeek parts.year asked).answer surroundings = .ok (.date date))
    (fieldsFound : date.fields = .ok fields)
    (weekFound : date.week = .ok week) :
    Shows calendar surroundings .weekly parts ⟨fields.year, some 1, none, some week, none⟩
  | monthly (parts : DateParts) :
    Shows calendar surroundings .monthly parts ⟨parts.year, parts.month, none, none, none⟩
  | quarterly (parts : DateParts) :
    Shows calendar surroundings .quarterly parts ⟨parts.year, some 1, none, none, parts.quarter⟩
  | yearly (parts : DateParts) :
    Shows calendar surroundings .yearly parts ⟨parts.year, some 1, none, none, none⟩

/-! ### Default patterns -/

/-- The default pattern of daily notes. -/
def dailyPattern : DayPattern := ⟨.dash, true, .dash, true, .inl rfl⟩

/-- The row of segments of a period's default pattern. -/
def defaultLayout : Period → Layout
  | .daily => dailyPattern.layout
  | .weekly => [.symbol (.field .year), .plain ['-'], .literal ['W'], .symbol .week]
  | .monthly => [.symbol (.field .year), .plain ['-'], .symbol (.field .paddedMonth)]
  | .quarterly => [.symbol (.field .year), .plain ['-'], .literal ['Q'], .symbol .quarter]
  | .yearly => [.symbol (.field .year)]

theorem source_defaultLayout (period : Period) :
    (defaultLayout period).source = Settings.defaultPattern period := by
  cases period <;> decide

theorem wellFormed_defaultLayout
    (system : CalendarSystem)
    (period : Period) :
    (defaultLayout period).WellFormed system := by
  cases system <;> cases period <;> decide

theorem isBlankText_defaultLayout (period : Period) :
    Text.isBlankText (defaultLayout period).source = false := by
  cases period <;> decide

/-! ### What the path of a row shows -/

theorem monthOrFirst_of_pos
    {given : Option Int}
    {month : Int}
    (isMonth : given = some month)
    (positive : 1 ≤ month) :
    Calendar.monthOrFirst given = month := by
  rw [isMonth]
  unfold Calendar.monthOrFirst
  split
  · rename_i impossible
    cases impossible
  · rename_i isZero
    cases isZero
    omega
  · rename_i same
    cases same
    rfl

section Shown

variable
  {system : CalendarSystem}
  {today : Day}
  {parts : DateParts}
  {date : Date}
  {locale : Locale}
  {shown : Text}
  (base : Text)

theorem dateOf?_daily
    (suits : Suits .daily parts)
    (found : Date.ofDateParts system today parts = .ok date)
    (written : (defaultLayout .daily).text locale date parts.quarter = .ok shown) :
    Path.dateOf? base (Path.assemble base shown) =
      .ok (some ⟨parts.year, parts.month, parts.day, none, none⟩) := by
  obtain ⟨year, month, day, week, quarter⟩ := parts
  obtain ⟨day, rfl⟩ := Option.isSome_iff_exists.1 suits
  have built : Date.ofParts system year month day = .ok date := found
  obtain ⟨month, rfl, isDate, fields⟩ := Date.fields_ofParts built
  have text := dailyPattern.text_layout locale fields quarter
  cases text.symm.trans written
  have quiet : IsQuietText [] := by decide
  have shows := Path.dateOf?_assemble_hasDate dailyPattern locale date isDate base quiet quiet
  rwa [List.nil_append, List.append_nil] at shows

/-- Parts without a day and a week stand for the first day of a month. -/
theorem fields_of_coarse
    (noDay : parts.day = none)
    (noWeek : parts.week = none)
    (found : Date.ofDateParts system today parts = .ok date) :
    system.HasDate parts.year (Calendar.monthOrFirst parts.month) 1 ∧
      date.fields =
        .ok ⟨parts.year.toNat, (Calendar.monthOrFirst parts.month).toNat, (1 : Int).toNat⟩ := by
  unfold Date.ofDateParts at found
  rw [noDay, noWeek] at found
  obtain ⟨month, same, isDate, fields⟩ := Date.fields_ofParts found
  cases same
  exact ⟨isDate, fields⟩

theorem dateOf?_monthly
    (suits : Suits .monthly parts)
    (found : Date.ofDateParts system today parts = .ok date)
    (written : (defaultLayout .monthly).text locale date parts.quarter = .ok shown) :
    Path.dateOf? base (Path.assemble base shown) =
      .ok (some ⟨parts.year, parts.month, none, none, none⟩) := by
  obtain ⟨noDay, noWeek, -, month, isMonth, first, last⟩ := suits
  obtain ⟨isDate, fields⟩ := fields_of_coarse noDay noWeek found
  obtain ⟨isYear, -⟩ := isDate.bounds
  rw [monthOrFirst_of_pos isMonth first] at fields
  have text : Layout.text locale date parts.quarter (defaultLayout .monthly) = .ok _ :=
    Layout.text_append (Layout.text_singleton (Layout.text_year fields))
      (Layout.text_append (Layout.text_singleton rfl)
        (Layout.text_singleton (Layout.text_paddedMonth fields)))
  cases text.symm.trans written
  have smallYear : parts.year.toNat ≤ 9999 := by omega
  have smallMonth : month.toNat < 100 := by omega
  have shows := Path.dateOf?_assemble_month base locale date smallYear .dash smallMonth
  rw [Int.toNat_of_nonneg (by omega), Int.toNat_of_nonneg (by omega)] at shows
  rw [isMonth]
  exact shows

theorem dateOf?_weekly
    (written : (defaultLayout .weekly).text locale date parts.quarter = .ok shown) :
    ∃ fields week, date.fields = .ok fields ∧ date.week = .ok week ∧
      Path.dateOf? base (Path.assemble base shown) =
        .ok (some ⟨fields.year, some 1, none, some week, none⟩) := by
  obtain ⟨yearText, later, yearWritten, laterWritten, rfl⟩ := Layout.text_cons_eq_ok_iff.1 written
  obtain ⟨fields, fieldsFound, same⟩ := Attempt.bind_eq_ok_iff.1 yearWritten
  cases same
  obtain ⟨_, _, dash, afterDash, rfl⟩ := Layout.text_cons_eq_ok_iff.1 laterWritten
  cases dash
  obtain ⟨_, _, letter, afterLetter, rfl⟩ := Layout.text_cons_eq_ok_iff.1 afterDash
  cases letter
  obtain ⟨_, _, weekWritten, nothing, rfl⟩ := Layout.text_cons_eq_ok_iff.1 afterLetter
  cases nothing
  obtain ⟨week, weekFound, same⟩ := Attempt.bind_eq_ok_iff.1 weekWritten
  cases same
  refine ⟨fields, week, fieldsFound, weekFound, ?_⟩
  have smallWeek : week < 100 := by
    have bound := Date.week_le weekFound
    omega
  rw [List.append_nil]
  exact Path.dateOf?_assemble_week base locale date (Date.year_le fieldsFound) smallWeek

theorem dateOf?_quarterly
    (suits : Suits .quarterly parts)
    (found : Date.ofDateParts system today parts = .ok date)
    (written : (defaultLayout .quarterly).text locale date parts.quarter = .ok shown) :
    Path.dateOf? base (Path.assemble base shown) =
      .ok (some ⟨parts.year, some 1, none, none, parts.quarter⟩) := by
  obtain ⟨noDay, noWeek, quarter, isQuarter, first, last⟩ := suits
  obtain ⟨isDate, fields⟩ := fields_of_coarse noDay noWeek found
  obtain ⟨isYear, -⟩ := isDate.bounds
  obtain ⟨quarter, rfl⟩ := Int.eq_ofNat_of_zero_le first
  rw [isQuarter] at written ⊢
  have text : Layout.text locale date (some (quarter : Int)) (defaultLayout .quarterly) = .ok _ :=
    Layout.text_append (Layout.text_singleton (Layout.text_year fields))
      (Layout.text_append (Layout.text_singleton rfl)
        (Layout.text_append (Layout.text_singleton rfl) (Layout.text_singleton rfl)))
  cases text.symm.trans written
  have smallYear : parts.year.toNat ≤ 9999 := by omega
  have smallQuarter : quarter < 10 := by omega
  have shows := Path.dateOf?_assemble_quarter base locale date smallYear smallQuarter
  rw [Int.toNat_of_nonneg (by omega)] at shows
  exact shows

theorem dateOf?_yearly
    (suits : Suits .yearly parts)
    (found : Date.ofDateParts system today parts = .ok date)
    (written : (defaultLayout .yearly).text locale date parts.quarter = .ok shown) :
    Path.dateOf? base (Path.assemble base shown) =
      .ok (some ⟨parts.year, some 1, none, none, none⟩) := by
  obtain ⟨noDay, noWeek, -⟩ := suits
  obtain ⟨isDate, fields⟩ := fields_of_coarse noDay noWeek found
  obtain ⟨isYear, -⟩ := isDate.bounds
  have text : Layout.text locale date parts.quarter (defaultLayout .yearly) = .ok _ :=
    Layout.text_singleton (Layout.text_year fields)
  cases text.symm.trans written
  have smallYear : parts.year.toNat ≤ 9999 := by omega
  have shows := Path.dateOf?_assemble_year base locale date smallYear
  rwa [Int.toNat_of_nonneg (by omega)] at shows

end Shown

/-! ### The round trip -/

/-- The path of a note is that of the system, the folder and the pattern that are set. -/
theorem answer_path
    {settings : Settings}
    {period : Period}
    {system : CalendarSystem}
    {folder : Text}
    {pattern : Option Text}
    (isEnabled : settings.isEnabled period = true)
    (systemFound : settings.system = .ok system)
    (folderFound : settings.folder period = .ok folder)
    (patternFound : settings.pattern period = .ok pattern)
    (calendar : Option Calendar)
    (parts : DateParts)
    (surroundings : Surroundings) :
    (path settings calendar period parts).answer surroundings =
      (Path.notePath system calendar folder pattern parts).answer surroundings := by
  rw [path, if_pos isEnabled, systemFound, folderFound, patternFound]
  rfl

/-- Where a period keeps its default pattern, the path of its note is one in that pattern. -/
theorem notePath_of_path
    {settings : Settings}
    {calendar : Option Calendar}
    {period : Period}
    (kept : settings.pattern period = .ok (some (Settings.defaultPattern period)))
    {parts : DateParts}
    {surroundings : Surroundings}
    {file : Text}
    (written : (path settings calendar period parts).answer surroundings = .ok file) :
    ∃ system folder,
      settings.system = .ok system ∧ settings.folder period = .ok folder ∧
        (Path.notePath system calendar folder (some (Settings.defaultPattern period))
          parts).answer surroundings = .ok file := by
  unfold path at written
  split at written
  · rw [Consultation.answer_bind, Consultation.answer_ofExcept] at written
    obtain ⟨system, systemFound, inSystem⟩ := Attempt.bind_eq_ok_iff.1 written
    rw [Consultation.answer_bind, Consultation.answer_ofExcept] at inSystem
    obtain ⟨folder, folderFound, inFolder⟩ := Attempt.bind_eq_ok_iff.1 inSystem
    rw [Consultation.answer_bind, Consultation.answer_ofExcept, kept] at inFolder
    exact ⟨system, folder, systemFound, folderFound, inFolder⟩
  · cases written

/-- For parts without a day, the calendar gives the date of the week that they ask for. -/
theorem answer_atWeek_of_found
    {system : CalendarSystem}
    {calendar : Option Calendar}
    (standsFor : Calendar.StandsFor system calendar)
    {parts : DateParts}
    (noDay : parts.day = none)
    {asked : Int}
    (isAsked : parts.week = some asked)
    {surroundings : Surroundings}
    {date : Date}
    (found :
      Date.ofDateParts system (Calendar.todayIn surroundings calendar) parts = .ok date) :
    ((calendar.getD (.ofSystem system none)).atWeek parts.year asked).answer surroundings =
      .ok (.date date) := by
  obtain ⟨today, resolved, clock⟩ := standsFor.exists_ofSystem surroundings
  unfold Date.ofDateParts at found
  rw [noDay, isAsked, ← clock] at found
  rw [resolved, Calendar.answer_atWeek]
  exact congrArg (Except.map Moment.date) found

/-- The path of a note in the default pattern of its period shows the date that it was asked for, to
the grain of the period; a week is shown as that of the date that the calendar gives for it. -/
theorem date?_of_path
    {settings : Settings}
    {calendar : Option Calendar}
    (standsFor : ∀ system, settings.system = .ok system → Calendar.StandsFor system calendar)
    {period : Period}
    (kept : settings.pattern period = .ok (some (Settings.defaultPattern period)))
    {parts : DateParts}
    (suits : Suits period parts)
    {surroundings : Surroundings}
    {file : Text}
    (written : (path settings calendar period parts).answer surroundings = .ok file) :
    ∃ system shown,
      settings.system = .ok system ∧
        Shows (calendar.getD (.ofSystem system none)) surroundings period parts shown ∧
        date? settings period file = .ok (some shown) := by
  obtain ⟨system, folder, systemFound, folderFound, inPattern⟩ := notePath_of_path kept written
  have own := standsFor system systemFound
  rw [← source_defaultLayout, Path.notePath_source_eq_ok_iff own
    (wellFormed_defaultLayout system period) (isBlankText_defaultLayout period)] at inPattern
  obtain ⟨-, date, text, found, textWritten, rfl⟩ := inPattern
  have dateOf : date? settings period (Path.assemble folder text) =
      Path.dateOf? folder (Path.assemble folder text) := by
    rw [date?, systemFound, folderFound]
    rfl
  rw [dateOf]
  -- A week is shown in the year of the date that it was resolved to, not in the one asked for.
  cases period with
  | daily =>
    exact ⟨system, _, systemFound, .daily parts, dateOf?_daily folder suits found textWritten⟩
  | weekly =>
    obtain ⟨fields, week, fieldsFound, weekFound, shows⟩ := dateOf?_weekly folder textWritten
    obtain ⟨noDay, isWeek⟩ := suits
    obtain ⟨asked, isAsked⟩ := Option.isSome_iff_exists.1 isWeek
    have atWeek := answer_atWeek_of_found own noDay isAsked found
    exact ⟨system, _, systemFound, .weekly isAsked atWeek fieldsFound weekFound, shows⟩
  | monthly =>
    exact ⟨system, _, systemFound, .monthly parts, dateOf?_monthly folder suits found textWritten⟩
  | quarterly =>
    exact ⟨system, _, systemFound, .quarterly parts,
      dateOf?_quarterly folder suits found textWritten⟩
  | yearly =>
    exact ⟨system, _, systemFound, .yearly parts, dateOf?_yearly folder suits found textWritten⟩

set_option maxRecDepth 4096 in
/-- A week after the last one of its year is shown as a week of the next year. -/
theorem date?_of_path_weekly :
    ∃ system shown,
      Settings.standard.system = .ok system ∧
        Shows ((none : Option Calendar).getD (.ofSystem system none))
          ⟨⟨739000, by decide, by decide⟩, ⟨true, .english⟩⟩ .weekly
          ⟨1403, none, none, some 54, none⟩ shown ∧
        date? Settings.standard .weekly "۱۴۰۴-W۰۲.md".toList = .ok (some shown) := by
  have kept : Settings.standard.pattern .weekly =
      .ok (some (Settings.defaultPattern .weekly)) :=
    rfl
  have suits : Suits .weekly ⟨1403, none, none, some 54, none⟩ := ⟨rfl, rfl⟩
  have written :
      (path Settings.standard none .weekly ⟨1403, none, none, some 54, none⟩).answer
          ⟨⟨739000, by decide, by decide⟩, ⟨true, .english⟩⟩ =
        .ok "۱۴۰۴-W۰۲.md".toList := by
    have system : Settings.standard.system = .ok .solar := rfl
    have folder : Settings.standard.folder .weekly = .ok [] := rfl
    rw [answer_path rfl system folder kept, ← source_defaultLayout,
      Path.notePath_source_eq_ok_iff (Calendar.standsFor_none .solar) (by decide) (by decide)]
    exact ⟨by decide, ⟨.solar, ⟨739336, by decide, by decide⟩⟩, "۱۴۰۴-W۰۲".toList, by rfl, by rfl,
      by rfl⟩
  exact date?_of_path (fun system _ => Calendar.standsFor_none system) kept suits written

end Daybook.Note
