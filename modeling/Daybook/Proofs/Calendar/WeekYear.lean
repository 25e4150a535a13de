import Daybook.Proofs.Calendar.GregorianWeek
import Daybook.Proofs.Calendar.SolarWeek

/-!
Contract: the years in which a week can be found.

Owns:
- the years to which today can be moved;
- the year in which a week is found from there;
- where the weeks of a year are found or refused otherwise than its new year day.

Does not own: how weeks are counted in either calendar.
-/

namespace Daybook

open Attempt

/-! ### Years that are taken otherwise than the others -/

namespace CalendarSystem

/-- The last year of a calendar; the first one has the number one. -/
def lastYear : CalendarSystem → Int
  | .solar => Solar.lastYear
  | .gregorian => 9999

/-- Whether the length of a month cannot be looked up in a year: it is the last solar month, and the
calendar lacks that year or the one after it. -/
def LacksLength (system : CalendarSystem) (month : Nat) (year : Int) : Prop :=
  system = .solar ∧ month = 12 ∧ ¬ (1 ≤ year ∧ year < Solar.lastYear)

/-- Whether a year stands for the one that today has. -/
def MeansThisYear (system : CalendarSystem) (year : Int) : Prop :=
  system = .gregorian ∧ year = 0

instance (system : CalendarSystem) (month : Nat) (year : Int) :
    Decidable (system.LacksLength month year) := by
  unfold LacksLength
  infer_instance

instance (system : CalendarSystem) (year : Int) : Decidable (system.MeansThisYear year) := by
  unfold MeansThisYear
  infer_instance

theorem hasDate_newYearDay_iff
    (system : CalendarSystem)
    (year : Int) :
    system.HasDate year 1 1 ↔ 1 ≤ year ∧ year ≤ system.lastYear := by
  cases system with
  | solar =>
    have opens : YearPlan.lengthOf (Solar.monthLengths year) (1 : Int).toNat = 31 := rfl
    exact and_iff_left ⟨by decide, by decide, by rw [opens]; decide⟩
  | gregorian =>
    have opens : YearPlan.lengthOf (Gregorian.monthLengths year.toNat) (1 : Int).toNat = 31 := rfl
    exact and_iff_left ⟨by decide, by decide, by rw [opens]; decide⟩

end CalendarSystem

/-! ### Today in another year -/

namespace Solar

/-- Today can be moved to the years of the calendar, but from the last month not to the last one. -/
theorem exists_inYear_iff
    {today : Day}
    {now : DateFields}
    (isNow : fields? today = some now)
    (year : Int) :
    (∃ moved, inYear today year = .ok moved) ↔
      (1 ≤ year ∧ year ≤ lastYear) ∧ (now.month = 12 → year < lastYear) := by
  constructor
  · intro found
    obtain ⟨moved, isMoved⟩ := found
    obtain ⟨date, isDate, sameYear⟩ := fields?_of_inYear isMoved
    obtain ⟨isYear, -⟩ := number_of_fields? isDate
    have writable : Text.isWritable year = true := by
      simp only [lastYear] at isYear
      exact Text.isWritable_of_bounds (by omega) (by omega)
    have keepsYear : ¬ LosesYear today year := by
      rw [← breaksOff_inYear_iff today writable, isMoved]
      simp
    simp only [LosesYear, isNow] at keepsYear
    exact ⟨by omega, by omega⟩
  · intro inside
    obtain ⟨moved, -, isMoved⟩ := exists_inYear_of_known isNow inside.1 inside.2
    exact ⟨moved, isMoved⟩

end Solar

namespace Gregorian

/-- Whether a date lies so far inside its year that its week does so, in whichever year it is. -/
def IsInner (date : DateFields) : Prop :=
  (date.month = 1 → 4 ≤ date.day) ∧ (date.month = 12 → date.day ≤ 28)

instance (date : DateFields) : Decidable (IsInner date) := by
  unfold IsInner
  infer_instance

/-- Today stays where it is, or gets its date in another year. -/
theorem inYear_cases
    {today moved : Day}
    {year : Int}
    (isMoved : inYear today year = .ok moved) :
    year = 0 ∧ moved = today ∨
      year ≠ 0 ∧
        toDay year (fields today).month
          (min (fields today).day
            (YearPlan.lengthOf (monthLengths year.toNat) (fields today).month)) = .ok moved := by
  unfold inYear at isMoved
  split at isMoved
  · rename_i isZero
    cases isMoved
    exact .inl ⟨isZero, rfl⟩
  · rename_i notZero
    split at isMoved
    · cases isMoved
    · split at isMoved
      · rename_i isDay
        cases isMoved
        exact .inr ⟨notZero, isDay⟩
      · cases isMoved

theorem exists_inYear_iff
    (today : Day)
    (year : Int) :
    (∃ moved, inYear today year = .ok moved) ↔ year = 0 ∨ 1 ≤ year ∧ year ≤ 9999 := by
  constructor
  · intro found
    obtain ⟨moved, isMoved⟩ := found
    rcases inYear_cases isMoved with ⟨isZero, -⟩ | ⟨-, isDay⟩
    · exact .inl isZero
    · exact .inr ((flaw?_eq_none_iff _ _ _).1 (fields_toDay isDay).1).1
  · intro inside
    rcases inside with rfl | isYear
    · exact ⟨today, rfl⟩
    · obtain ⟨moved, -, isMoved⟩ := exists_inYear today isYear
      exact ⟨moved, isMoved⟩

/-- A day that is moved from inside its year has its week in the year to which it is moved. -/
theorem weekYear_of_inYear
    {today moved : Day}
    {year : Int}
    (isMoved : inYear today year = .ok moved)
    (notZero : year ≠ 0)
    (isInner : IsInner (fields today)) :
    (weekYear moved : Int) = year := by
  rcases inYear_cases isMoved with ⟨isZero, -⟩ | ⟨-, isDay⟩
  · exact absurd isZero notZero
  · obtain ⟨-, isMonth, -⟩ := (flaw?_eq_none_iff _ _ _).1 (flaw?_fields today)
    obtain ⟨long, -⟩ := place_of_month year.toNat
      (show 1 ≤ (fields today).month ∧ (fields today).month ≤ 12 by omega)
    obtain ⟨notFirst, notLast⟩ := isInner
    exact weekYear_of_toDay isDay (by omega) (by omega)

end Gregorian

namespace Date

/-- The year to which the week of a date belongs. -/
def weekYear (date : Date) : Except Fault Nat :=
  match date.system with
  | .solar => do pure (← date.fields).year
  | .gregorian => .ok (Gregorian.weekYear date.day)

section

variable
  {system : CalendarSystem}
  {today : Day}
  {now : DateFields}
  {year : Int}
  {start : Date}

theorem exists_inYear_iff
    (isNow : Date.fields ⟨system, today⟩ = .ok now) :
    (∃ start, inYear system today year = .ok start) ↔
      ¬ system.LacksLength now.month year ∧
        (system.MeansThisYear year ∨ system.HasDate year 1 1) := by
  rw [CalendarSystem.hasDate_newYearDay_iff]
  cases system with
  | solar =>
    have sameDay : (∃ start, inYear .solar today year = .ok start) ↔
        ∃ moved, Solar.inYear today year = .ok moved :=
      exists_bind_pure_eq_ok_iff
    rw [sameDay, Solar.exists_inYear_iff (fields_solar_eq_ok_iff.1 isNow)]
    simp only [CalendarSystem.LacksLength, CalendarSystem.MeansThisYear, CalendarSystem.lastYear,
      true_and, reduceCtorEq, false_and, false_or]
    omega
  | gregorian =>
    have sameDay : (∃ start, inYear .gregorian today year = .ok start) ↔
        ∃ moved, Gregorian.inYear today year = .ok moved :=
      exists_bind_pure_eq_ok_iff
    rw [sameDay, Gregorian.exists_inYear_iff]
    simp [CalendarSystem.LacksLength, CalendarSystem.MeansThisYear, CalendarSystem.lastYear]

/-- Today in a year that stands for its own is today. -/
theorem inYear_of_meansThisYear
    (today : Day)
    (isPresent : system.MeansThisYear year) :
    inYear system today year = .ok ⟨system, today⟩ := by
  obtain ⟨rfl, rfl⟩ := isPresent
  rfl

/-- The week of a day that was moved to a year belongs to that year, in the Gregorian calendar if
the day lies far enough inside it. -/
theorem weekYear_of_inYear
    (isNow : Date.fields ⟨system, today⟩ = .ok now)
    (moved : inYear system today year = .ok start)
    (isOther : ¬ system.MeansThisYear year)
    (isInner : system = .gregorian → Gregorian.IsInner now) :
    ∃ reached, start.weekYear = .ok reached ∧ (reached : Int) = year := by
  cases system with
  | solar =>
    obtain ⟨day, isMoved, same⟩ := bind_eq_ok_iff.1 moved
    cases same
    obtain ⟨date, isDate, sameYear⟩ := Solar.fields?_of_inYear isMoved
    have shown := fields_solar_eq_ok_iff.2 isDate
    exact ⟨date.year, bind_eq_ok_iff.2 ⟨date, shown, rfl⟩, sameYear⟩
  | gregorian =>
    obtain ⟨day, isMoved, same⟩ := bind_eq_ok_iff.1 moved
    cases same
    cases isNow
    have notZero : year ≠ 0 := fun isZero => isOther ⟨rfl, isZero⟩
    exact ⟨_, rfl, Gregorian.weekYear_of_inYear isMoved notZero (isInner rfl)⟩

/-! ### A week of that year -/

variable
  {week : Nat}
  (isWeek : 2 ≤ week ∧ week ≤ 51)

include isWeek

/-- From any date, a week from the second to the fifty-first leads to that week of the year to which
the week of the date belongs. -/
theorem exists_toWeek
    {shown : DateFields}
    (isShown : start.fields = .ok shown) :
    ∃ date fields, start.toWeek week = .ok date ∧ date.fields = .ok fields ∧
      date.week = .ok week ∧ start.weekYear = .ok fields.year := by
  obtain ⟨system, day⟩ := start
  cases system with
  | solar =>
    obtain ⟨found, fields, reached, isFields, sameWeek, sameYear⟩ :=
      exists_toWeek_solar (fields_solar_eq_ok_iff.1 isShown)
        (show 2 ≤ week ∧ week ≤ 52 by omega)
    refine ⟨_, fields, reached, fields_solar_eq_ok_iff.2 isFields, ?_, ?_⟩
    · rw [week_solar_eq_ok isFields, sameWeek]
    · rw [sameYear]
      exact bind_eq_ok_iff.2 ⟨shown, isShown, rfl⟩
  | gregorian =>
    obtain ⟨found, reached, sameWeek, sameYear⟩ :=
      exists_toWeek_gregorian (Gregorian.weekYear_le day) isWeek
    exact ⟨_, _, reached, rfl, congrArg Except.ok sameWeek, congrArg Except.ok sameYear.symm⟩

theorem exists_ofWeek
    (moved : inYear system today year = .ok start) :
    ∃ date fields, ofWeek system today year week = .ok date ∧ date.fields = .ok fields ∧
      date.week = .ok week ∧ start.weekYear = .ok fields.year := by
  obtain ⟨shown, isShown⟩ := exists_fields_of_inYear moved
  rw [ofWeek_eq, moved]
  exact exists_toWeek isWeek isShown

theorem exists_ofWeek_iff :
    (∃ date, ofWeek system today year week = .ok date) ↔
      ∃ start, inYear system today year = .ok start := by
  constructor
  · intro found
    obtain ⟨date, reached⟩ := found
    rw [ofWeek_eq] at reached
    obtain ⟨start, moved, -⟩ := bind_eq_ok_iff.1 reached
    exact ⟨start, moved⟩
  · intro found
    obtain ⟨start, moved⟩ := found
    obtain ⟨date, -, reached, -⟩ := exists_ofWeek isWeek moved
    exact ⟨date, reached⟩

/-- Such a week is neither found nor refused only where the length of today's month is missing. -/
theorem breaksOff_ofWeek_iff_lacksLength
    (isNow : Date.fields ⟨system, today⟩ = .ok now)
    (isWord : Gregorian.inWord year = true) :
    BreaksOff (ofWeek system today year week) ↔ system.LacksLength now.month year := by
  have keepsWeek : ¬ ∃ start, inYear system today year = .ok start ∧ start.LosesWeek week := by
    intro found
    obtain ⟨start, moved, losesWeek⟩ := found
    obtain ⟨current, isCurrent⟩ := exists_week_of_inYear moved
    obtain ⟨shown, isShown⟩ := exists_fields_of_inYear moved
    obtain ⟨date, -, reached, -⟩ := exists_toWeek isWeek isShown
    rw [← breaksOff_toWeek_iff isCurrent, reached] at losesWeek
    exact (breaksOff_ok_iff date).1 losesWeek
  rw [breaksOff_ofWeek_iff system today (Gregorian.isWritable_of_inWord isWord),
    or_iff_left keepsWeek]
  cases system with
  | solar => simp [LosesYear, Solar.LosesYear, CalendarSystem.LacksLength,
      fields_solar_eq_ok_iff.1 isNow]
  | gregorian => simp [LosesYear, CalendarSystem.LacksLength, isWord]

end

/-! ### The years of the calendar -/

theorem isRefused_newYearDay_iff
    (system : CalendarSystem)
    {year : Int}
    (isWord : Gregorian.inWord year = true) :
    IsRefused (ofParts system year (some 1) 1) ↔ ¬ system.HasDate year 1 1 := by
  have one : Gregorian.inWord 1 = true := by decide
  have isDecided : ¬ BreaksOff (ofParts system year (some 1) 1) := by
    rw [breaksOff_ofParts_iff system (by simp [Gregorian.isWritable_of_inWord, isWord, one])]
    simp [isWord, one]
  rw [isRefused_iff, exists_ofParts_iff]
  exact and_iff_right isDecided

/-- A week from the second to the fifty-first is found in the years that the calendar has, and
refused in all others, just as the new year day is.  There are two exceptions: from the last solar
month, the last year and the years outside the calendar fail for want of the month's length, and the
Gregorian year zero stands for the year of today.

The date that is found lies in the week asked for.  Its year is that of the week in which today lies
once it is moved, which is the year asked for, in the Gregorian calendar if today lies far enough
inside its year. -/
theorem ofWeek_outcome
    {system : CalendarSystem}
    {today : Day}
    {now : DateFields}
    (isNow : Date.fields ⟨system, today⟩ = .ok now)
    {year : Int}
    (isWord : Gregorian.inWord year = true)
    {week : Nat}
    (isWeek : 2 ≤ week ∧ week ≤ 51) :
    (BreaksOff (ofWeek system today year week) ↔ system.LacksLength now.month year) ∧
      (¬ system.LacksLength now.month year → ¬ system.MeansThisYear year →
        (IsRefused (ofWeek system today year week) ↔
            IsRefused (ofParts system year (some 1) 1)) ∧
          ((∃ date, ofWeek system today year week = .ok date) ↔
            ∃ date, ofParts system year (some 1) 1 = .ok date)) ∧
      (system.MeansThisYear year →
        IsRefused (ofParts system year (some 1) 1) ∧
          inYear system today year = .ok ⟨system, today⟩ ∧
          ∃ date, ofWeek system today year week = .ok date) ∧
      ∀ date, ofWeek system today year week = .ok date →
        ∃ start fields,
          inYear system today year = .ok start ∧ date.fields = .ok fields ∧
            date.week = .ok week ∧ start.weekYear = .ok fields.year ∧
            (¬ system.MeansThisYear year → (system = .gregorian → Gregorian.IsInner now) →
              (fields.year : Int) = year) := by
  have breaksOff := breaksOff_ofWeek_iff_lacksLength isWeek isNow isWord
  have refused := isRefused_newYearDay_iff system isWord
  refine ⟨breaksOff, ?_, ?_, ?_⟩
  · intro known isOther
    have sameYears : (∃ date, ofWeek system today year week = .ok date) ↔
        system.HasDate year 1 1 := by
      rw [exists_ofWeek_iff isWeek, exists_inYear_iff isNow, and_iff_right known,
        or_iff_right isOther]
    constructor
    · rw [isRefused_iff, breaksOff, and_iff_right known, sameYears, refused]
    · rw [sameYears, exists_ofParts_iff]
  · intro isPresent
    have unmoved := inYear_of_meansThisYear today isPresent
    obtain ⟨date, -, reached, -⟩ := exists_ofWeek isWeek unmoved
    refine ⟨?_, unmoved, date, reached⟩
    rw [refused, CalendarSystem.hasDate_newYearDay_iff]
    obtain ⟨-, isZero⟩ := isPresent
    omega
  · intro date reached
    obtain ⟨start, moved⟩ := (exists_ofWeek_iff isWeek).1 ⟨date, reached⟩
    obtain ⟨other, fields, sameReached, isFields, sameWeek, sameYear⟩ := exists_ofWeek isWeek moved
    cases reached.symm.trans sameReached
    refine ⟨start, fields, moved, isFields, sameWeek, sameYear, ?_⟩
    intro isOther isInner
    obtain ⟨shared, isShared, asked⟩ := weekYear_of_inYear isNow moved isOther isInner
    cases sameYear.symm.trans isShared
    exact asked

/-- In the middle of the solar year, the tenth week of the last year is found. -/
theorem ofWeek_outcome_lastYear :
    let today : Day := ⟨739195, by decide, by decide⟩
    Date.fields ⟨.solar, today⟩ = .ok ⟨1403, 8, 15⟩ ∧ Gregorian.inWord 9377 = true ∧
      (2 ≤ 10 ∧ 10 ≤ 51) ∧
      ∃ date fields,
        ofWeek .solar today 9377 10 = .ok date ∧ date.fields = .ok fields ∧
          (fields.year : Int) = 9377 ∧ date.week = .ok 10 := by
  intro today
  have isNow : Date.fields ⟨.solar, today⟩ = .ok ⟨1403, 8, 15⟩ :=
    fields_solar_eq_ok_iff.2 (by decide)
  have isWord : Gregorian.inWord 9377 = true := by decide
  have isWeek : 2 ≤ 10 ∧ 10 ≤ 51 := by decide
  obtain ⟨-, sameYears, -, shown⟩ := ofWeek_outcome isNow isWord isWeek
  have hasYear : CalendarSystem.HasDate .solar 9377 1 1 := by decide
  obtain ⟨date, reached⟩ :=
    (sameYears (by decide) (by decide)).2.2 (exists_ofParts hasYear)
  obtain ⟨start, fields, -, isFields, sameWeek, -, sameYear⟩ := shown date reached
  refine ⟨isNow, isWord, isWeek, date, fields, reached, isFields, ?_, sameWeek⟩
  apply sameYear
  · decide
  · intro impossible
    cases impossible

/-- In the last solar month, the last year has its new year day but its tenth week breaks off, as
that of the year after it does, which is refused for its new year day.  On the same day, the
Gregorian year zero is refused for its new year day, and its tenth week is that of this year. -/
theorem ofWeek_lastMonth :
    let today : Day := ⟨739320, by decide, by decide⟩
    Date.fields ⟨.solar, today⟩ = .ok ⟨1403, 12, 20⟩ ∧
      (∃ date, ofParts .solar 9377 (some 1) 1 = .ok date) ∧
      BreaksOff (ofWeek .solar today 9377 10) ∧
      IsRefused (ofParts .solar 9378 (some 1) 1) ∧
      BreaksOff (ofWeek .solar today 9378 10) ∧
      IsRefused (ofParts .gregorian 0 (some 1) 1) ∧
      ∃ date fields,
        ofWeek .gregorian today 0 10 = .ok date ∧ date.fields = .ok fields ∧ fields.year = 2025 := by
  intro today
  have isNow : Date.fields ⟨.solar, today⟩ = .ok ⟨1403, 12, 20⟩ :=
    fields_solar_eq_ok_iff.2 (by decide)
  have isWeek : 2 ≤ 10 ∧ 10 ≤ 51 := by decide
  refine ⟨isNow, exists_ofParts (by decide), ?_, ?_, ?_, ?_, ?_⟩
  · apply (breaksOff_ofWeek_iff_lacksLength isWeek isNow (by decide)).2
    decide
  · apply (isRefused_newYearDay_iff .solar (by decide)).2
    decide
  · apply (breaksOff_ofWeek_iff_lacksLength isWeek isNow (by decide)).2
    decide
  · apply (isRefused_newYearDay_iff .gregorian (by decide)).2
    decide
  · have isPresent : CalendarSystem.MeansThisYear .gregorian 0 := by decide
    have unmoved := inYear_of_meansThisYear today isPresent
    obtain ⟨date, fields, reached, isFields, -, sameYear⟩ := exists_ofWeek isWeek unmoved
    have thisYear : weekYear ⟨.gregorian, today⟩ = .ok 2025 :=
      congrArg Except.ok (show Gregorian.weekYear today = 2025 by decide)
    have isYear := Except.ok.inj (thisYear.symm.trans sameYear)
    exact ⟨date, fields, reached, isFields, isYear.symm⟩

end Date

end Daybook
