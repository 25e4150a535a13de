import Daybook.Proofs.Calendar.Date
import Daybook.Proofs.Path.Rendering

/-!
Contract: when a date is neither found nor refused.

Owns:
- attempts that fail for a date which a calendar does not have, or for another reason;
- the numbers and years that the arithmetic of a calendar cannot take;
- the weeks that leave the days there are;
- the dates that cannot be written in a pattern.

Does not own: how such a failure is reported.
-/

namespace Daybook

namespace Attempt

variable {α β : Type}

/-- Whether an attempt fails for another reason than a date which a calendar does not have. -/
def BreaksOff (work : Except Fault α) : Prop :=
  ∃ fault, work = .error fault ∧ fault.category ≠ .date

@[simp] theorem breaksOff_ok_iff (value : α) : BreaksOff (.ok value) ↔ False := by
  simp [BreaksOff]

@[simp] theorem breaksOff_error_iff (fault : Fault) :
    BreaksOff (.error fault : Except Fault α) ↔ fault.category ≠ .date := by
  simp [BreaksOff]

theorem breaksOff_bind_iff
    {work : Except Fault α}
    {next : α → Except Fault β} :
    BreaksOff (work >>= next) ↔
      BreaksOff work ∨ ∃ value, work = .ok value ∧ BreaksOff (next value) := by
  cases work with
  | error fault =>
    show BreaksOff (.error fault) ↔ _
    simp
  | ok value =>
    show BreaksOff (next value) ↔ _
    simp

theorem breaksOff_bind_pure_iff
    {work : Except Fault α}
    {change : α → β} :
    BreaksOff (work >>= fun value => pure (change value)) ↔ BreaksOff work := by
  rw [breaksOff_bind_iff]
  simp [pure, Except.pure]

/-- Whether an attempt fails for a date which a calendar does not have. -/
def IsRefused (work : Except Fault α) : Prop :=
  ∃ fault, work = .error fault ∧ fault.category = .date

theorem isRefused_iff {work : Except Fault α} :
    IsRefused work ↔ ¬ BreaksOff work ∧ ¬ ∃ value, work = .ok value := by
  cases work <;> simp [IsRefused]

/-- Whether an attempt never fails for a date which a calendar does not have. -/
def NeverRefuses (work : Except Fault α) : Prop :=
  ∀ fault, work = .error fault → fault.category ≠ .date

theorem neverRefuses_ok (value : α) : NeverRefuses (.ok value) := by
  rintro fault ⟨⟩

theorem NeverRefuses.bind_pure
    {work : Except Fault α}
    (never : NeverRefuses work)
    (change : α → β) :
    NeverRefuses (work >>= fun value => pure (change value)) := by
  intro fault failed
  rcases bind_eq_error_iff.1 failed with here | ⟨value, -, impossible⟩
  · exact never fault here
  · cases impossible

end Attempt

open Attempt

/-! ### Dates from their parts -/

namespace Gregorian

theorem isWritable_of_inWord
    {number : Int}
    (isWord : inWord number = true) :
    Text.isWritable number = true := by
  simp only [inWord, Bool.and_eq_true, decide_eq_true_eq] at isWord
  exact Text.isWritable_of_bounds isWord.1 isWord.2

theorem breaksOff_build_iff (year month day : Int) :
    BreaksOff (build year (some month) day) ↔
      ∃ number ∈ [year, month, day], inWord number = false := by
  simp only [List.mem_cons, List.not_mem_nil, or_false, exists_eq_or_imp, exists_eq_left]
  unfold build
  split
  · simp_all [Fault.category]
  · dsimp only
    split
    · simp_all [Fault.category]
    · split <;> simp_all [Fault.category]

theorem breaksOff_inYear_iff
    (day : Day)
    (year : Int) :
    BreaksOff (inYear day year) ↔ inWord year = false := by
  unfold inYear
  split
  · rename_i isZero
    subst isZero
    simp only [breaksOff_ok_iff, false_iff]
    decide
  · split
    · simp_all [Fault.category]
    · split <;> simp_all [Fault.category]

end Gregorian

namespace Solar

/-- A date whose numbers can be written is found or refused. -/
theorem not_breaksOff_build
    {year month day : Int}
    (writable : ∀ n ∈ [year, month, day], Text.isWritable n = true) :
    ¬ BreaksOff (build year (some month) day) := by
  unfold build
  dsimp only
  split
  · exact (breaksOff_ok_iff _).1
  · rename_i flaw _
    have worded : ∀ n ∈ (Fault.solarDate year month day flaw).numbers,
        Text.isWritable n = true := writable
    rw [Fault.raise_of_writable worded]
    simp [Fault.category]

/-- The new year day of every year can be found. -/
theorem exists_newYearDay_iff (year : Int) :
    (∃ day, toDay year 1 1 = .ok day) ↔ 1 ≤ year ∧ year ≤ lastYear := by
  have firstMonth : YearPlan.lengthOf (monthLengths year) (1 : Int).toNat = 31 := rfl
  constructor
  · rintro ⟨day, found⟩
    exact ((flaw?_eq_none_iff year 1 1).1 (fields?_toDay found).1).1
  · intro isYear
    apply exists_toDay
    rw [flaw?_eq_none_iff, firstMonth]
    exact ⟨isYear, by decide, by decide⟩

/-- The length of a year is known if the calendar has the year after it, too. -/
theorem exists_isLongYear_iff (year : Int) :
    (∃ long, isLongYear year = .ok long) ↔ 1 ≤ year ∧ year < lastYear := by
  have start := exists_newYearDay_iff year
  have finish := exists_newYearDay_iff (year + 1)
  constructor
  · rintro ⟨long, found⟩
    obtain ⟨first, firstFound, found⟩ := bind_eq_ok_iff.1 found
    obtain ⟨next, nextFound, -⟩ := bind_eq_ok_iff.1 found
    have isYear := start.1 ⟨first, firstFound⟩
    have isNext := finish.1 ⟨next, nextFound⟩
    omega
  · intro inside
    obtain ⟨first, firstFound⟩ := start.2 (by omega)
    obtain ⟨next, nextFound⟩ := finish.2 (by omega)
    exact ⟨_, bind_eq_ok_iff.2 ⟨first, firstFound, bind_eq_ok_iff.2 ⟨next, nextFound, rfl⟩⟩⟩

theorem breaksOff_monthLength_iff
    (year : Int)
    {month : Nat}
    (isMonth : month ≤ 12) :
    BreaksOff ((monthLength year month).mapError Fault.solarFlaw) ↔
      month = 12 ∧ ¬ (1 ≤ year ∧ year < lastYear) := by
  rw [← exists_isLongYear_iff]
  have known : ∀ length : Nat,
      BreaksOff (Except.mapError Fault.solarFlaw (pure length)) ↔ False := breaksOff_ok_iff
  unfold monthLength
  split
  · rw [known, false_iff]
    rintro ⟨isLast, -⟩
    omega
  · split
    · rw [known, false_iff]
      rintro ⟨isLast, -⟩
      omega
    · have isLast : month = 12 := by omega
      cases isLongYear year with
      | error flaw =>
        show BreaksOff (.error (.solarFlaw flaw)) ↔ _
        simp [isLast, Fault.category]
      | ok long =>
        show BreaksOff (.ok (if long then 30 else 29)) ↔ _
        simp

/-- Whether a day cannot be moved to a year, even to find that the calendar does not have it. -/
def LosesYear (today : Day) (year : Int) : Prop :=
  match fields? today with
  | none => True
  | some date => date.month = 12 ∧ ¬ (1 ≤ year ∧ year < lastYear)

theorem breaksOff_inYear_iff
    (today : Day)
    {year : Int}
    (writable : Text.isWritable year = true) :
    BreaksOff (inYear today year) ↔ LosesYear today year := by
  unfold inYear LosesYear
  cases found : fields? today with
  | none =>
    have noFields : Date.fields ⟨.solar, today⟩ = .error (.solarFlaw .year) := by
      simp only [Date.fields, found]
    rw [noFields]
    show BreaksOff (.error _) ↔ _
    simp [Fault.category]
  | some date =>
    have fields := Date.fields_solar_eq_ok_iff.2 found
    have isDate : CalendarSystem.solar.HasDate date.year date.month date.day :=
      (flaw?_eq_none_iff _ _ _).1 (flaw?_fields? found)
    obtain ⟨-, isMonth, isDay⟩ := isDate.bounds
    have inYear : date.month ≤ 12 := by omega
    have built : ∀ length : Nat,
        ¬ BreaksOff (build year (some date.month) (min date.day length)) := by
      intro length
      refine not_breaksOff_build fun n member => ?_
      rcases List.mem_cons.1 member with rfl | member
      · exact writable
      · simp only [List.mem_cons, List.not_mem_nil, or_false] at member
        exact Text.isWritable_of_bounds (by omega) (by omega)
    rw [fields]
    show BreaksOff ((monthLength year date.month).mapError Fault.solarFlaw >>= _) ↔
      date.month = 12 ∧ ¬ (1 ≤ year ∧ year < lastYear)
    rw [breaksOff_bind_iff, breaksOff_monthLength_iff year inYear]
    simp only [built, and_false, exists_false, or_false]

/-- A day that was moved to another year has its date there. -/
theorem fields?_of_inYear
    {today day : Day}
    {year : Int}
    (moved : inYear today year = .ok day) :
    ∃ date, fields? day = some date ∧ (date.year : Int) = year := by
  obtain ⟨date, -, moved⟩ := bind_eq_ok_iff.1 moved
  obtain ⟨length, -, moved⟩ := bind_eq_ok_iff.1 moved
  unfold build at moved
  dsimp only at moved
  split at moved
  · rename_i isDay
    cases moved
    obtain ⟨noFlaw, isDate⟩ := fields?_toDay isDay
    obtain ⟨isYear, -⟩ := (flaw?_eq_none_iff _ _ _).1 noFlaw
    exact ⟨_, isDate, Int.toNat_of_nonneg (by omega)⟩
  · exact absurd moved Fault.raise_ne_ok

end Solar

namespace Date

/-- The three numbers of a date, if the arithmetic of its calendar cannot take one of them. -/
theorem breaksOff_ofParts_iff
    (system : CalendarSystem)
    {year month day : Int}
    (writable : ∀ n ∈ [year, month, day], Text.isWritable n = true) :
    BreaksOff (ofParts system year (some month) day) ↔
      system = .gregorian ∧ ∃ number ∈ [year, month, day], Gregorian.inWord number = false := by
  cases system with
  | solar =>
    show BreaksOff (_ >>= _) ↔ _
    rw [breaksOff_bind_pure_iff]
    simp [Solar.not_breaksOff_build writable]
  | gregorian =>
    show BreaksOff (_ >>= _) ↔ _
    rw [breaksOff_bind_pure_iff, Gregorian.breaksOff_build_iff]
    simp

/-! ### Dates from a year and a week -/

/-- Whether a week of the year of a date lies outside the days there are. -/
def LosesWeek (start : Date) (week : Int) : Prop :=
  ∃ current, start.week = .ok current ∧
    ¬ (1 ≤ start.day.number + 7 * (week - current) ∧
      start.day.number + 7 * (week - current) ≤ lastDayNumber)

theorem breaksOff_toWeek_iff
    {start : Date}
    {current : Nat}
    (found : start.week = .ok current)
    (week : Int) :
    BreaksOff (start.toWeek week) ↔ start.LosesWeek week := by
  have onlyCurrent : start.LosesWeek week ↔
      ¬ (1 ≤ start.day.number + 7 * (week - current) ∧
        start.day.number + 7 * (week - current) ≤ lastDayNumber) := by
    simp [LosesWeek, found]
  rw [onlyCurrent]
  by_cases inside : 1 ≤ start.day.number + 7 * (week - current) ∧
      start.day.number + 7 * (week - current) ≤ lastDayNumber
  · obtain ⟨day, isDay⟩ := Day.exists_ofNumber? inside
    rw [toWeek_eq_ok found isDay]
    simp [inside]
  · rw [toWeek_eq_error found (Day.ofNumber?_eq_none inside)]
    simp [inside, Fault.category]

/-- The day from which the weeks of a year are counted. -/
def inYear (system : CalendarSystem) (today : Day) (year : Int) : Except Fault Date :=
  match system with
  | .solar => do pure ⟨.solar, ← Solar.inYear today year⟩
  | .gregorian => do pure ⟨.gregorian, ← Gregorian.inYear today year⟩

theorem ofWeek_eq
    (system : CalendarSystem)
    (today : Day)
    (year week : Int) :
    ofWeek system today year week = (do (← inYear system today year).toWeek week) := by
  cases system with
  | solar =>
    unfold ofWeek inYear
    dsimp only
    cases Solar.inYear today year <;> rfl
  | gregorian =>
    unfold ofWeek inYear
    dsimp only
    cases Gregorian.inYear today year <;> rfl

theorem exists_fields_of_inYear
    {system : CalendarSystem}
    {today : Day}
    {year : Int}
    {start : Date}
    (moved : inYear system today year = .ok start) :
    ∃ shown, start.fields = .ok shown := by
  cases system with
  | solar =>
    obtain ⟨day, movedDay, same⟩ := bind_eq_ok_iff.1 moved
    cases same
    obtain ⟨date, found, -⟩ := Solar.fields?_of_inYear movedDay
    exact ⟨date, fields_solar_eq_ok_iff.2 found⟩
  | gregorian =>
    obtain ⟨day, -, same⟩ := bind_eq_ok_iff.1 moved
    cases same
    exact ⟨Gregorian.fields day, rfl⟩

theorem exists_week_of_inYear
    {system : CalendarSystem}
    {today : Day}
    {year : Int}
    {start : Date}
    (moved : inYear system today year = .ok start) :
    ∃ current, start.week = .ok current := by
  obtain ⟨shown, isShown⟩ := exists_fields_of_inYear moved
  unfold week
  split
  · exact ⟨_, rfl⟩
  · exact ⟨_, bind_eq_ok_iff.2 ⟨shown, isShown, rfl⟩⟩

/-- Whether today cannot be moved to a year. -/
def LosesYear (system : CalendarSystem) (today : Day) (year : Int) : Prop :=
  match system with
  | .solar => Solar.LosesYear today year
  | .gregorian => Gregorian.inWord year = false

theorem breaksOff_ofWeek_iff
    (system : CalendarSystem)
    (today : Day)
    {year : Int}
    (writable : Text.isWritable year = true)
    (week : Int) :
    BreaksOff (ofWeek system today year week) ↔
      LosesYear system today year ∨
        ∃ start, inYear system today year = .ok start ∧ start.LosesWeek week := by
  have isYear : BreaksOff (inYear system today year) ↔ LosesYear system today year := by
    cases system with
    | solar =>
      show BreaksOff (_ >>= _) ↔ _
      rw [breaksOff_bind_pure_iff]
      exact Solar.breaksOff_inYear_iff today writable
    | gregorian =>
      show BreaksOff (_ >>= _) ↔ _
      rw [breaksOff_bind_pure_iff]
      exact Gregorian.breaksOff_inYear_iff today year
  rw [ofWeek_eq, breaksOff_bind_iff, isYear]
  refine or_congr_right (exists_congr fun start => and_congr_right fun moved => ?_)
  obtain ⟨current, found⟩ := exists_week_of_inYear moved
  exact breaksOff_toWeek_iff found week

/-! ### Dates from parts -/

/-- Whether no date can be looked for with some parts: the Gregorian arithmetic cannot take one of
their numbers, or their week cannot be reached from today. -/
def LosesParts (system : CalendarSystem) (today : Day) (parts : DateParts) : Prop :=
  match parts.day, parts.week with
  | none, some week =>
    LosesYear system today parts.year ∨
      ∃ start, inYear system today parts.year = .ok start ∧ start.LosesWeek week
  | _, _ =>
    system = .gregorian ∧
      ∃ number ∈ [parts.year, parts.month.getD 1, parts.day.getD 1], Gregorian.inWord number = false

theorem breaksOff_ofDateParts_iff
    (system : CalendarSystem)
    (today : Day)
    {parts : DateParts}
    (hasMonth : parts.month ≠ none)
    (writable : ∀ n ∈ parts.numbers, Text.isWritable n = true) :
    BreaksOff (ofDateParts system today parts) ↔ LosesParts system today parts := by
  obtain ⟨year, month, day, week, quarter⟩ := parts
  obtain ⟨month, rfl⟩ := Option.ne_none_iff_exists'.1 hasMonth
  have yearWritable : Text.isWritable year = true := writable year List.mem_cons_self
  have monthWritable : Text.isWritable month = true :=
    writable month (List.mem_cons_of_mem _ List.mem_cons_self)
  cases day with
  | some day =>
    have dayWritable : Text.isWritable day = true :=
      writable day (List.mem_cons_of_mem _ (List.mem_cons_of_mem _ List.mem_cons_self))
    exact breaksOff_ofParts_iff system (by simp [yearWritable, monthWritable, dayWritable])
  | none =>
    cases week with
    | some week => exact breaksOff_ofWeek_iff system today yearWritable week
    | none =>
      have monthCases : Calendar.monthOrFirst (some month) = month ∨
          month = 0 ∧ Calendar.monthOrFirst (some month) = 1 := by
        unfold Calendar.monthOrFirst
        split <;> simp_all
      have firstWritable : Text.isWritable 1 = true :=
        Text.isWritable_of_bounds (by decide) (by decide)
      have sameWord : Gregorian.inWord (Calendar.monthOrFirst (some month)) =
          Gregorian.inWord month := by
        rcases monthCases with same | ⟨rfl, same⟩
        · rw [same]
        · rw [same]
          rfl
      have shownWritable : Text.isWritable (Calendar.monthOrFirst (some month)) = true := by
        rcases monthCases with same | ⟨-, same⟩
        · rw [same, monthWritable]
        · rw [same, firstWritable]
      show BreaksOff (ofParts system year (some (Calendar.monthOrFirst (some month))) 1) ↔ _
      rw [breaksOff_ofParts_iff system (by simp [yearWritable, shownWritable, firstWritable])]
      simp [LosesParts, sameWord]

/-! ### Dates in a pattern -/

theorem breaksOff_fields_iff (date : Date) :
    BreaksOff date.fields ↔ date.system = .solar ∧ Solar.fields? date.day = none := by
  obtain ⟨system, day⟩ := date
  unfold fields
  cases system with
  | solar => cases Solar.fields? day <;> simp [Fault.category]
  | gregorian => simp

theorem breaksOff_week_iff (date : Date) :
    BreaksOff date.week ↔ date.system = .solar ∧ Solar.fields? date.day = none := by
  unfold week
  split
  · simp [*]
  · rw [breaksOff_bind_pure_iff, breaksOff_fields_iff]

theorem neverRefuses_fields (date : Date) : NeverRefuses date.fields := by
  intro fault failed
  unfold fields at failed
  split at failed
  · cases failed
  · split at failed
    · cases failed
    · cases failed
      decide

theorem neverRefuses_week (date : Date) : NeverRefuses date.week := by
  unfold week
  split
  · exact neverRefuses_ok _
  · exact date.neverRefuses_fields.bind_pure _

end Date

/-- Whether a token is read in the solar calendar, in the pattern of a date of the given one. -/
def Pattern.Token.readsSolar (own : CalendarSystem) : Pattern.Token → Bool
  | .field system _ => system == .solar
  | .week | .quarter => own == .solar

namespace Date

theorem breaksOff_tokenText_iff
    (locale : Locale)
    (date : Date)
    (token : Pattern.Token) :
    BreaksOff (date.tokenText locale token) ↔
      token.readsSolar date.system = true ∧ Solar.fields? date.day = none := by
  cases token with
  | field system field =>
    have onlyFields : BreaksOff (field.text locale ⟨system, date.day⟩) ↔
        BreaksOff (fields ⟨system, date.day⟩) := by
      cases field <;> exact breaksOff_bind_pure_iff
    show BreaksOff (field.text locale ⟨system, date.day⟩) ↔ _
    rw [onlyFields, breaksOff_fields_iff]
    simp [Pattern.Token.readsSolar]
  | week =>
    show BreaksOff (date.week >>= _) ↔ _
    rw [breaksOff_bind_pure_iff, breaksOff_week_iff]
    simp [Pattern.Token.readsSolar]
  | quarter =>
    show BreaksOff (date.quarter >>= _) ↔ _
    rw [breaksOff_bind_pure_iff, quarter, breaksOff_bind_pure_iff, breaksOff_fields_iff]
    simp [Pattern.Token.readsSolar]

theorem neverRefuses_pieceText
    (locale : Locale)
    (date : Date)
    (piece : Pattern.Piece) :
    NeverRefuses (date.pieceText locale piece) := by
  cases piece with
  | literal text => exact neverRefuses_ok text
  | plain character => exact neverRefuses_ok [character]
  | token token =>
    cases token with
    | week => exact date.neverRefuses_week.bind_pure _
    | quarter => exact (date.neverRefuses_fields.bind_pure _).bind_pure _
    | field system field => cases field <;> exact (neverRefuses_fields _).bind_pure _

/-- A text fails with the first of its tokens that does. -/
theorem breaksOff_piecesText_iff
    (locale : Locale)
    (date : Date)
    (pieces : List Pattern.Piece) :
    BreaksOff (date.piecesText locale pieces) ↔
      ∃ token, .token token ∈ pieces ∧ BreaksOff (date.tokenText locale token) := by
  induction pieces with
  | nil => simp [piecesText]
  | cons piece rest inductionHypothesis =>
    have onlyTokens : BreaksOff (date.pieceText locale piece) ↔
        ∃ token, .token token = piece ∧ BreaksOff (date.tokenText locale token) := by
      cases piece <;> simp [pieceText]
    rw [piecesText, breaksOff_bind_iff]
    simp only [breaksOff_bind_pure_iff, inductionHypothesis, List.mem_cons, or_and_right,
      exists_or, ← onlyTokens]
    cases here : date.pieceText locale piece with
    | ok text => simp
    | error fault =>
      have broken : BreaksOff (.error fault : Except Fault Text) :=
        ⟨fault, rfl, neverRefuses_pieceText locale date piece fault here⟩
      simp only [broken, true_or]

/-- Whether a date cannot be written in a pattern: it has no solar date, and the pattern shows a
part of that. -/
def LacksText (date : Date) (pattern : Text) : Prop :=
  Solar.fields? date.day = none ∧
    ∃ token, .token token ∈ Pattern.pieces date.system pattern ∧ token.readsSolar date.system = true

theorem breaksOff_render_iff
    (locale : Locale)
    (date : Date)
    (pattern : Text) :
    BreaksOff (date.render locale pattern) ↔ date.LacksText pattern := by
  simp only [render, breaksOff_piecesText_iff, breaksOff_tokenText_iff, LacksText]
  tauto

end Date

/-! ### The text and the path of parts -/

namespace Path

/-- Whether the text of parts in a pattern can be neither found nor refused. -/
def LosesText
    (system : CalendarSystem)
    (today : Day)
    (pattern : Option Text)
    (parts : DateParts) :
    Prop :=
  Date.LosesParts system today parts ∨
    ∃ date, Date.ofDateParts system today parts = .ok date ∧
      date.LacksText (Pattern.prepare system parts.quarter (effectivePattern pattern parts))

theorem breaksOff_dateText_iff
    (system : CalendarSystem)
    (pattern : Option Text)
    {parts : DateParts}
    (hasMonth : parts.month ≠ none)
    (writable : ∀ n ∈ parts.numbers, Text.isWritable n = true)
    (surroundings : Surroundings) :
    BreaksOff ((dateText system none pattern parts).answer surroundings) ↔
      LosesText system surroundings.today pattern parts := by
  rw [answer_dateText (Calendar.standsFor_none system) (canWrite_of_numbers writable pattern),
    breaksOff_bind_iff]
  simp only [Date.breaksOff_render_iff, Date.breaksOff_ofDateParts_iff _ _ hasMonth writable]
  rfl

theorem breaksOff_notePath_iff
    (system : CalendarSystem)
    (base : Text)
    (pattern : Option Text)
    {parts : DateParts}
    (hasMonth : parts.month ≠ none)
    (writable : ∀ n ∈ parts.numbers, Text.isWritable n = true)
    (surroundings : Surroundings) :
    BreaksOff ((notePath system none base pattern parts).answer surroundings) ↔
      LosesText system surroundings.today pattern parts := by
  rw [← breaksOff_dateText_iff system pattern hasMonth writable, notePath, Consultation.answer_bind]
  exact breaksOff_bind_pure_iff

end Path

end Daybook
