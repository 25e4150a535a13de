import Daybook.Path.Writing
import Daybook.Proofs.Attempt
import Daybook.Proofs.Pattern.Compilation
import Daybook.Proofs.Writing

/-!
Contract: what the text of a date in a generic pattern depends on, and what it says.

Owns:
- the date that the parts of a note stand for;
- the numbers of the parts that are written besides that date;
- the text of parts in any pattern, as the text of that date;
- the text of parts in the pattern of a well-formed row of segments.

Does not own: base folders, extensions, or whether a date exists.
-/

namespace Daybook

/-! ### Gregorian dates and the locale -/

namespace Pattern

theorem Piece.next_gregorian_ne
    (c : Char)
    (rest : Text)
    (field : Field) :
    (next .gregorian c rest).1 ≠ .token (.field .solar field) := by
  unfold next markedField?
  split
  · simp
  · split
    · rename_i impossible
      cases impossible
    · split
      · simp
      · split
        · rename_i ordinal after found
          unfold ordinal? at found
          split at found <;> cases found <;> simp
        · simp

end Pattern

namespace Date

theorem pieceText_gregorian
    (locale other : Locale)
    {date : Date}
    (isGregorian : date.system = .gregorian)
    {piece : Pattern.Piece}
    (own : ∀ field, piece ≠ .token (.field .solar field)) :
    date.pieceText locale piece = date.pieceText other piece := by
  obtain ⟨system, day⟩ := date
  cases isGregorian
  cases piece with
  | literal inner => rfl
  | plain c => rfl
  | token token =>
    cases token with
    | week => rfl
    | quarter => rfl
    | field named field =>
      cases named with
      | solar => exact absurd rfl (own field)
      | gregorian => cases field <;> rfl

/-- No locale shows in the text of a Gregorian date. -/
theorem render_gregorian
    (locale other : Locale)
    {date : Date}
    (isGregorian : date.system = .gregorian)
    (pattern : Text) :
    date.render locale pattern = date.render other pattern := by
  rw [render, render, isGregorian]
  induction pattern using Pattern.pieces.induct .gregorian with
  | case1 => rw [Pattern.pieces]; rfl
  | case2 c rest inductionHypothesis =>
    rw [Pattern.pieces, piecesText, piecesText, inductionHypothesis,
      pieceText_gregorian locale other isGregorian (Pattern.Piece.next_gregorian_ne c rest)]

/-! ### The date of parts -/

/-- The date that the parts of a note stand for on a given day: a day counts before a week, and all
else stands for the first day of the month. -/
def ofDateParts (system : CalendarSystem) (today : Day) (parts : DateParts) : Except Fault Date :=
  match parts.day, parts.week with
  | some day, _ => ofParts system parts.year parts.month day
  | none, some week => ofWeek system today parts.year week
  | none, none => ofParts system parts.year (some (Calendar.monthOrFirst parts.month)) 1

theorem system_ofParts
    {system : CalendarSystem}
    {year : Int}
    {month : Option Int}
    {day : Int}
    {date : Date}
    (found : ofParts system year month day = .ok date) :
    date.system = system := by
  cases system with
  | solar =>
    obtain ⟨day, -, result⟩ := Attempt.bind_eq_ok_iff.1 found
    cases result
    rfl
  | gregorian =>
    obtain ⟨day, -, result⟩ := Attempt.bind_eq_ok_iff.1 found
    cases result
    rfl

theorem system_toWeek
    {start date : Date}
    {week : Int}
    (found : start.toWeek week = .ok date) :
    date.system = start.system := by
  obtain ⟨current, -, result⟩ := Attempt.bind_eq_ok_iff.1 found
  split at result
  · cases result
    rfl
  · cases result

theorem system_ofWeek
    {system : CalendarSystem}
    {today : Day}
    {year week : Int}
    {date : Date}
    (found : ofWeek system today year week = .ok date) :
    date.system = system := by
  cases system with
  | solar =>
    obtain ⟨day, -, result⟩ := Attempt.bind_eq_ok_iff.1 found
    exact system_toWeek result
  | gregorian =>
    obtain ⟨day, -, result⟩ := Attempt.bind_eq_ok_iff.1 found
    exact system_toWeek result

theorem system_ofDateParts
    {system : CalendarSystem}
    {today : Day}
    {parts : DateParts}
    {date : Date}
    (found : ofDateParts system today parts = .ok date) :
    date.system = system := by
  unfold ofDateParts at found
  split at found
  · exact system_ofParts found
  · exact system_ofWeek found
  · exact system_ofParts found

end Date

/-! ### Calendars that stand for a system -/

namespace Calendar

/-- The calendars that stand for a system: the shared one, and those that have a clock of their
own. -/
def StandsFor (system : CalendarSystem) : Option Calendar → Prop
  | none => True
  | some (.ofSystem own _) => own = system
  | some .echo => False

theorem standsFor_none (system : CalendarSystem) : StandsFor system none :=
  trivial

/-- The day that a calendar takes for today, in the given surroundings. -/
def todayIn (surroundings : Surroundings) : Option Calendar → Day
  | some (.ofSystem _ (some day)) => day
  | _ => surroundings.today

theorem answer_localeFor
    (system : CalendarSystem)
    (surroundings : Surroundings) :
    (Consultation.localeFor system).answer surroundings =
      .ok (match system with | .solar => surroundings.locale | .gregorian => .standard) := by
  cases system <;> rfl

theorem answer_clock
    (today : Option Day)
    (surroundings : Surroundings) :
    (clock today).answer surroundings = .ok (today.getD surroundings.today) := by
  cases today <;> rfl

theorem answer_atDate
    (system : CalendarSystem)
    (today : Option Day)
    (year : Int)
    (month : Option Int)
    (day : Int)
    (surroundings : Surroundings) :
    ((ofSystem system today).atDate year month day).answer surroundings =
      (Date.ofParts system year month day).map Moment.date := by
  rw [atDate, Consultation.answer_bind, answer_localeFor, Except.bind, Consultation.answer_bind,
    Consultation.answer_ofExcept]
  cases Date.ofParts system year month day <;> rfl

theorem answer_atWeek
    (system : CalendarSystem)
    (today : Option Day)
    (year week : Int)
    (surroundings : Surroundings) :
    ((ofSystem system today).atWeek year week).answer surroundings =
      (Date.ofWeek system (today.getD surroundings.today) year week).map Moment.date := by
  rw [atWeek, Consultation.answer_bind, answer_localeFor, Except.bind, Consultation.answer_bind,
    answer_clock, Except.bind, Consultation.answer_bind, Consultation.answer_ofExcept]
  cases Date.ofWeek system (today.getD surroundings.today) year week <;> rfl

theorem answer_moment
    (system : CalendarSystem)
    (today : Option Day)
    (parts : DateParts)
    (surroundings : Surroundings) :
    ((ofSystem system today).moment parts).answer surroundings =
      (Date.ofDateParts system (today.getD surroundings.today) parts).map Moment.date := by
  obtain ⟨year, month, day, week, quarter⟩ := parts
  cases day with
  | some day => exact answer_atDate system today year month day surroundings
  | none =>
    cases week with
    | some week => exact answer_atWeek system today year week surroundings
    | none => exact answer_atDate system today year (some (monthOrFirst month)) 1 surroundings

/-- A calendar that only repeats what it is asked has to write the numbers. -/
theorem answer_atDate_echo
    (year : Int)
    (month : Option Int)
    (day : Int)
    (surroundings : Surroundings) :
    (echo.atDate year month day).answer surroundings =
      (Fault.writing (year :: month.toList ++ [day])).map fun _ =>
        .echo (Text.ofInt year ++ '/' :: shownNumber month ++ '/' :: Text.ofInt day) := by
  rw [atDate, Consultation.answer_bind, Consultation.answer_ofExcept]
  cases Fault.writing (year :: month.toList ++ [day]) <;> rfl

theorem answer_atWeek_echo
    (year week : Int)
    (surroundings : Surroundings) :
    (echo.atWeek year week).answer surroundings =
      (Fault.writing [year, week]).map fun _ =>
        .echo (Text.ofInt year ++ 'W' :: Text.ofInt week) := by
  rw [atWeek, Consultation.answer_bind, Consultation.answer_ofExcept]
  cases Fault.writing [year, week] <;> rfl

/-- A calendar that only repeats what it is asked consults nothing. -/
theorem exists_echoed (parts : DateParts) :
    ∃ asked : Except Fault Text, ∀ surroundings,
      (echo.moment parts).answer surroundings = asked.map Moment.echo := by
  have repeats : ∀ (numbers : List Int) (text : Text),
      ((Fault.writing numbers).map fun _ => Moment.echo text) =
        ((Fault.writing numbers).map fun _ => text).map Moment.echo := by
    intro numbers text
    cases Fault.writing numbers <;> rfl
  unfold moment
  split
  · exact ⟨_, fun surroundings => (answer_atDate_echo _ _ _ surroundings).trans (repeats _ _)⟩
  · exact ⟨_, fun surroundings => (answer_atWeek_echo _ _ surroundings).trans (repeats _ _)⟩
  · exact ⟨_, fun surroundings => (answer_atDate_echo _ _ _ surroundings).trans (repeats _ _)⟩

theorem answer_orShared
    (system : CalendarSystem)
    (calendar : Option Calendar)
    (surroundings : Surroundings) :
    (orShared system calendar).answer surroundings =
      .ok (calendar.getD (ofSystem system none)) := by
  cases calendar <;> rfl

/-- A calendar that stands for a system is that system with a clock. -/
theorem StandsFor.exists_ofSystem
    {system : CalendarSystem}
    {calendar : Option Calendar}
    (standsFor : StandsFor system calendar)
    (surroundings : Surroundings) :
    ∃ today, calendar.getD (ofSystem system none) = ofSystem system today ∧
      today.getD surroundings.today = todayIn surroundings calendar := by
  rcases calendar with _ | (⟨own, today⟩ | _)
  · exact ⟨none, rfl, rfl⟩
  · cases standsFor
    exact ⟨today, rfl, by cases today <;> rfl⟩
  · exact absurd standsFor id

end Calendar

/-! ### The text of parts -/

/-- The text of a date in a prepared pattern needs no more than the locale in force. -/
theorem Moment.answer_render
    (date : Date)
    (prepared : Text)
    (surroundings : Surroundings) :
    ((Moment.date date).render prepared).answer surroundings =
      date.render surroundings.locale prepared := by
  show ((Consultation.localeFor date.system >>= _).answer surroundings) = date.render _ _
  rw [Consultation.answer_bind, Calendar.answer_localeFor, Except.bind,
    Consultation.answer_ofExcept]
  cases isGregorian : date.system with
  | solar => rfl
  | gregorian => exact Date.render_gregorian .standard surroundings.locale isGregorian _

theorem Pattern.prepared_eq_ok_iff
    {system : CalendarSystem}
    {quarter : Option Int}
    {pattern result : Text} :
    prepared system quarter pattern = .ok result ↔
      (∀ n ∈ quarter.toList, Text.isWritable n = true) ∧
        prepare system quarter pattern = result := by
  rw [prepared, Fault.writing_bind_eq_ok_iff]
  exact and_congr_right fun _ => Iff.of_eq (Except.ok.injEq _ _)

namespace Path

/-- The numbers that are written besides those of the date: a given quarter, and all numbers of the
parts if no pattern is given. -/
def writtenNumbers (pattern : Option Text) (parts : DateParts) : List Int :=
  if isUnset pattern then parts.numbers else parts.quarter.toList

/-- Whether the numbers that are written besides those of the date have few enough digits. -/
def CanWrite (pattern : Option Text) (parts : DateParts) : Prop :=
  ∀ n ∈ writtenNumbers pattern parts, Text.isWritable n = true

instance (pattern : Option Text) (parts : DateParts) : Decidable (CanWrite pattern parts) :=
  inferInstanceAs (Decidable (∀ n ∈ writtenNumbers pattern parts, _))

theorem quarter_subset_numbers (parts : DateParts) : parts.quarter.toList ⊆ parts.numbers :=
  fun _ member => List.mem_cons_of_mem _ (List.mem_append_right _ member)

/-- Numbers can be written exactly if those for the choice of a pattern and the quarter can. -/
theorem canWrite_iff
    {pattern : Option Text}
    {parts : DateParts} :
    CanWrite pattern parts ↔
      (∀ n ∈ if isUnset pattern then parts.numbers else [], Text.isWritable n = true) ∧
        ∀ n ∈ parts.quarter.toList, Text.isWritable n = true := by
  unfold CanWrite writtenNumbers
  split
  · exact ⟨fun writable => ⟨writable, fun n member =>
      writable n (quarter_subset_numbers parts member)⟩, And.left⟩
  · exact ⟨fun writable => ⟨fun _ member => (List.not_mem_nil member).elim, writable⟩, And.right⟩

theorem choosePattern_eq_ok_iff
    {pattern : Option Text}
    {parts : DateParts}
    {chosen : Text} :
    choosePattern pattern parts = .ok chosen ↔
      (∀ n ∈ if isUnset pattern then parts.numbers else [], Text.isWritable n = true) ∧
        effectivePattern pattern parts = chosen := by
  rw [choosePattern, Fault.writing_bind_eq_ok_iff]
  exact and_congr_right fun _ => Iff.of_eq (Except.ok.injEq _ _)

/-- Where a pattern is given, only a quarter is written besides the date. -/
theorem canWrite_some_iff
    {pattern : Text}
    (notBlank : Text.isBlankText pattern = false)
    {parts : DateParts} :
    CanWrite (some pattern) parts ↔ ∀ quarter ∈ parts.quarter, Text.isWritable quarter = true := by
  have isSet : isUnset (some pattern) = false := notBlank
  rw [CanWrite, writtenNumbers, isSet, if_neg Bool.false_ne_true]
  simp only [Option.mem_toList, Option.mem_def]

/-- Parts whose numbers can all be written can be written in any pattern. -/
theorem canWrite_of_numbers
    {parts : DateParts}
    (writable : ∀ n ∈ parts.numbers, Text.isWritable n = true)
    (pattern : Option Text) :
    CanWrite pattern parts := by
  rw [canWrite_iff]
  refine ⟨?_, fun n member => writable n (quarter_subset_numbers parts member)⟩
  split
  · exact writable
  · exact fun _ member => (List.not_mem_nil member).elim

section Answer

variable
  {system own : CalendarSystem}
  {calendar : Option Calendar}
  {today : Option Day}

/-- The text of parts in a pattern is that of the date in the calendar's own system, unless a number
that is written on the way has too many digits. -/
theorem answer_dateText_of_resolved
    (resolved : calendar.getD (.ofSystem system none) = .ofSystem own today)
    (pattern : Option Text)
    (parts : DateParts)
    (surroundings : Surroundings) :
    (dateText system calendar pattern parts).answer surroundings = (do
      let chosen ← choosePattern pattern parts
      let date ← Date.ofDateParts own (today.getD surroundings.today) parts
      let prepared ← Pattern.prepared system parts.quarter chosen
      date.render surroundings.locale prepared) := by
  simp only [dateText, Consultation.answer_bind, Consultation.answer_ofExcept,
    Calendar.answer_orShared, resolved]
  cases choosePattern pattern parts with
  | error fault => rfl
  | ok chosen =>
    simp only [Except.bind, Calendar.answer_moment]
    cases Date.ofDateParts own (today.getD surroundings.today) parts with
    | error fault => rfl
    | ok date =>
      show Except.bind (Pattern.prepared system parts.quarter chosen) _ =
        Except.bind (Pattern.prepared system parts.quarter chosen) _
      exact congrArg _ (funext fun prepared => Moment.answer_render date prepared surroundings)

/-- Where no number is too long, the text of parts in a pattern is that of the date in the
calendar's own system. -/
theorem answer_dateText_of_canWrite
    (resolved : calendar.getD (.ofSystem system none) = .ofSystem own today)
    {pattern : Option Text}
    {parts : DateParts}
    (canWrite : CanWrite pattern parts)
    (surroundings : Surroundings) :
    (dateText system calendar pattern parts).answer surroundings = (do
      let date ← Date.ofDateParts own (today.getD surroundings.today) parts
      date.render surroundings.locale
        (Pattern.prepare system parts.quarter (effectivePattern pattern parts))) := by
  obtain ⟨writable, writableQuarter⟩ := canWrite_iff.1 canWrite
  have prepared :
      Pattern.prepared system parts.quarter (effectivePattern pattern parts) =
        .ok (Pattern.prepare system parts.quarter (effectivePattern pattern parts)) :=
    Pattern.prepared_eq_ok_iff.2 ⟨writableQuarter, rfl⟩
  rw [answer_dateText_of_resolved resolved, choosePattern_eq_ok_iff.2 ⟨writable, rfl⟩]
  show (Date.ofDateParts own (today.getD surroundings.today) parts >>= fun date =>
    Pattern.prepared system parts.quarter (effectivePattern pattern parts) >>=
      date.render surroundings.locale) = _
  rw [prepared]
  rfl

/-- There is a text of parts in a pattern exactly if no number that is written on the way is too
long, and the date in the calendar's own system has one. -/
theorem answer_dateText_of_resolved_eq_ok_iff
    (resolved : calendar.getD (.ofSystem system none) = .ofSystem own today)
    {pattern : Option Text}
    {parts : DateParts}
    {surroundings : Surroundings}
    {shown : Text} :
    (dateText system calendar pattern parts).answer surroundings = .ok shown ↔
      CanWrite pattern parts ∧
        ∃ date,
          Date.ofDateParts own (today.getD surroundings.today) parts = .ok date ∧
            date.render surroundings.locale
              (Pattern.prepare system parts.quarter (effectivePattern pattern parts)) =
                .ok shown := by
  simp only [answer_dateText_of_resolved resolved, Attempt.bind_eq_ok_iff,
    choosePattern_eq_ok_iff, Pattern.prepared_eq_ok_iff, canWrite_iff]
  constructor
  · rintro ⟨_, ⟨writable, rfl⟩, date, found, _, ⟨writableQuarter, rfl⟩, rendered⟩
    exact ⟨⟨writable, writableQuarter⟩, date, found, rendered⟩
  · rintro ⟨⟨writable, writableQuarter⟩, date, found, rendered⟩
    exact ⟨_, ⟨writable, rfl⟩, date, found, _, ⟨writableQuarter, rfl⟩, rendered⟩

end Answer

/-- Where no number is too long, the text of parts in a pattern is the text of the date that they
stand for. -/
theorem answer_dateText
    {system : CalendarSystem}
    {calendar : Option Calendar}
    (standsFor : Calendar.StandsFor system calendar)
    {pattern : Option Text}
    {parts : DateParts}
    (canWrite : CanWrite pattern parts)
    (surroundings : Surroundings) :
    (dateText system calendar pattern parts).answer surroundings = (do
      let date ← Date.ofDateParts system (Calendar.todayIn surroundings calendar) parts
      date.render surroundings.locale
        (Pattern.prepare system parts.quarter (effectivePattern pattern parts))) := by
  obtain ⟨today, resolved, clock⟩ := standsFor.exists_ofSystem surroundings
  rw [answer_dateText_of_canWrite resolved canWrite, clock]

/-- There is a text of parts in a pattern exactly if no number that is written on the way is too
long, and the date that they stand for has one. -/
theorem answer_dateText_eq_ok_iff
    {system : CalendarSystem}
    {calendar : Option Calendar}
    (standsFor : Calendar.StandsFor system calendar)
    {pattern : Option Text}
    {parts : DateParts}
    {surroundings : Surroundings}
    {shown : Text} :
    (dateText system calendar pattern parts).answer surroundings = .ok shown ↔
      CanWrite pattern parts ∧
        ∃ date,
          Date.ofDateParts system (Calendar.todayIn surroundings calendar) parts = .ok date ∧
            date.render surroundings.locale
              (Pattern.prepare system parts.quarter (effectivePattern pattern parts)) =
                .ok shown := by
  obtain ⟨today, resolved, clock⟩ := standsFor.exists_ofSystem surroundings
  rw [answer_dateText_of_resolved_eq_ok_iff resolved, clock]

/-- The path of a note is built from the text of its date. -/
theorem answer_notePath
    (system : CalendarSystem)
    (calendar : Option Calendar)
    (base : Text)
    (pattern : Option Text)
    (parts : DateParts)
    (surroundings : Surroundings) :
    (notePath system calendar base pattern parts).answer surroundings =
      ((dateText system calendar pattern parts).answer surroundings).map (assemble base) := by
  rw [notePath, Consultation.answer_bind]
  cases (dateText system calendar pattern parts).answer surroundings <;> rfl

theorem effectivePattern_of_not_blank
    {pattern : Text}
    (notBlank : Text.isBlankText pattern = false)
    (parts : DateParts) :
    effectivePattern (some pattern) parts = pattern := by
  rw [effectivePattern, notBlank, if_neg Bool.false_ne_true]

/-- The patterns that count where none is given. -/
def standardPatterns : List Text :=
  ["YYYY-MM-DD", "YYYY-[W]WW", "YYYY-[Q]Q", "YYYY-MM", "YYYY"].map String.toList

theorem defaultPattern_mem (parts : DateParts) : parts.defaultPattern ∈ standardPatterns := by
  unfold DateParts.defaultPattern standardPatterns
  split
  · simp
  · split
    · simp
    · split
      · simp
      · split <;> simp

/-- What holds of the given pattern, and of those that count where none is given, holds of the
pattern that counts. -/
theorem of_effectivePattern
    {holds : Text → Prop}
    {pattern : Option Text}
    (ofGiven : ∀ given ∈ pattern, holds given)
    (ofStandard : ∀ listed ∈ standardPatterns, holds listed)
    (parts : DateParts) :
    holds (effectivePattern pattern parts) := by
  cases pattern with
  | none => exact ofStandard _ (defaultPattern_mem parts)
  | some given =>
    rw [effectivePattern]
    split
    · exact ofStandard _ (defaultPattern_mem parts)
    · exact ofGiven given rfl

section Source

variable
  {system : CalendarSystem}
  {calendar : Option Calendar}
  (standsFor : Calendar.StandsFor system calendar)
  {layout : Pattern.Layout}
  (wellFormed : layout.WellFormed system)
  (notBlank : Text.isBlankText layout.source = false)

include standsFor wellFormed notBlank

/-- In the pattern of a well-formed row, the text of parts is that of its segments, if a given
quarter is not too long. -/
theorem answer_dateText_source_eq_ok_iff
    {parts : DateParts}
    {surroundings : Surroundings}
    {shown : Text} :
    (dateText system calendar (some layout.source) parts).answer surroundings = .ok shown ↔
      (∀ quarter ∈ parts.quarter, Text.isWritable quarter = true) ∧
        ∃ date,
          Date.ofDateParts system (Calendar.todayIn surroundings calendar) parts = .ok date ∧
            layout.text surroundings.locale date parts.quarter = .ok shown := by
  rw [answer_dateText_eq_ok_iff standsFor, canWrite_some_iff notBlank,
    effectivePattern_of_not_blank notBlank]
  refine and_congr_right fun _ => exists_congr fun date => and_congr_right fun found => ?_
  cases Date.system_ofDateParts found
  rw [Date.render_prepare_source surroundings.locale date parts.quarter wellFormed]

/-- In the pattern of a well-formed row, the path for parts is built from the text of that row. -/
theorem notePath_source_eq_ok_iff
    (base : Text)
    (parts : DateParts)
    (surroundings : Surroundings)
    (file : Text) :
    (notePath system calendar base (some layout.source) parts).answer surroundings = .ok file ↔
      (∀ quarter ∈ parts.quarter, Text.isWritable quarter = true) ∧
        ∃ date shown,
          Date.ofDateParts system (Calendar.todayIn surroundings calendar) parts = .ok date ∧
            layout.text surroundings.locale date parts.quarter = .ok shown ∧
            assemble base shown = file := by
  rw [answer_notePath, Attempt.map_eq_ok_iff]
  simp only [answer_dateText_source_eq_ok_iff standsFor wellFormed notBlank]
  constructor
  · rintro ⟨shown, ⟨writable, date, found, shownOf⟩, same⟩
    exact ⟨writable, date, shown, found, shownOf, same⟩
  · rintro ⟨writable, date, shown, found, shownOf, same⟩
    exact ⟨shown, ⟨writable, date, found, shownOf⟩, same⟩

/-- A well-formed pattern is rendered segment by segment: the text of parts is, where there is one,
that of the segments for the date that the calendar gives for the parts.  Besides the date and its
text, a given quarter is all that can stand in the way, where it is too long to be written. -/
theorem dateText_eq_ok_iff
    (parts : DateParts)
    (surroundings : Surroundings)
    (shown : Text) :
    (dateText system calendar (some layout.source) parts).answer surroundings = .ok shown ↔
      (∀ quarter ∈ parts.quarter, Text.isWritable quarter = true) ∧
        ∃ date : Date,
          ((calendar.getD (.ofSystem system none)).moment parts).answer surroundings =
              .ok (.date date) ∧
            date.system = system ∧
            layout.text surroundings.locale date parts.quarter = .ok shown := by
  obtain ⟨today, resolved, clock⟩ := standsFor.exists_ofSystem surroundings
  rw [answer_dateText_source_eq_ok_iff standsFor wellFormed notBlank, resolved]
  simp only [Calendar.answer_moment, clock, Attempt.map_eq_ok_iff, Moment.date.injEq]
  refine and_congr_right fun _ => ?_
  constructor
  · rintro ⟨date, found, written⟩
    exact ⟨date, ⟨date, found, rfl⟩, Date.system_ofDateParts found, written⟩
  · rintro ⟨date, ⟨_, found, rfl⟩, -, written⟩
    exact ⟨_, found, written⟩

end Source

set_option maxRecDepth 4096 in
/-- A month name, a literal that touches it, and a given quarter among the numbers of a locale. -/
theorem dateText_lastDay :
    (dateText .solar none
        (some (Pattern.Layout.source
          [.symbol (.field .year), .plain ['/'], .symbol (.field .monthName), .literal ['s'],
            .symbol (.field .day), .plain ['-'], .symbol .week, .symbol .quarter]))
        ⟨1403, some 12, some 30, none, some 4⟩).answer
          ⟨⟨739000, by decide, by decide⟩, ⟨true, .english⟩⟩ =
      .ok "۱۴۰۳/Esfands۳۰-۵۳4".toList :=
  (dateText_eq_ok_iff (Calendar.standsFor_none .solar) (by decide) (by decide) _ _ _).2
    ⟨by decide, ⟨.solar, ⟨739330, by decide, by decide⟩⟩, by rfl, rfl, by rfl⟩

end Path

end Daybook
