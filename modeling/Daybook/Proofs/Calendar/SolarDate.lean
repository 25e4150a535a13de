import Daybook.Proofs.Calendar.SolarWeek
import Mathlib.Algebra.BigOperators.Group.Finset.Basic
import Mathlib.Data.Prod.Lex
import Mathlib.Order.Interval.Finset.Nat

/-!
Contract: solar dates, which are kept as days and read off them again.

Owns:
- the dates of the solar calendar, by the ranges of their parts;
- the days whose dates belong to the calendar, and the way back from each of them;
- the order of dates, which is that of their days;
- the lengths of months, by which the dates of a year are told and the year is filled.

Does not own: weeks, or dates of other calendars.
-/

namespace Daybook

namespace Solar

/-! ### The dates of the calendar -/

/-- Whether the calendar has a date.  Its months have thirty-one days up to the sixth and thirty up
to the eleventh; the last one has twenty-nine, or thirty in a leap year. -/
def IsDate (year month day : Int) : Prop :=
  (1 ≤ year ∧ year ≤ 9377) ∧ (1 ≤ month ∧ month ≤ 12) ∧ 1 ≤ day ∧
    day ≤ if month ≤ 6 then 31 else if month ≤ 11 then 30 else if isLeapResidue year then 30 else 29

instance (year month day : Int) : Decidable (IsDate year month day) := by
  unfold IsDate
  infer_instance

theorem hasDate_iff_isDate
    (year month day : Int) :
    CalendarSystem.solar.HasDate year month day ↔ IsDate year month day := by
  unfold CalendarSystem.HasDate IsDate
  refine and_congr Iff.rfl (and_congr_right fun isMonth => ?_)
  have length := lengthOf_monthLengths year
    (show 1 ≤ month.toNat ∧ month.toNat ≤ 12 by omega)
  have early : month.toNat ≤ 6 ↔ month ≤ 6 := by omega
  have late : month.toNat ≤ 11 ↔ month ≤ 11 := by omega
  rw [length]
  simp only [early, late]
  split_ifs <;> simp

theorem isDate_of_toDay
    {year month day : Int}
    {found : Day}
    (isDay : toDay year month day = .ok found) :
    IsDate year month day := by
  rw [← hasDate_iff_isDate]
  exact (flaw?_eq_none_iff year month day).1 (fields?_toDay isDay).1

/-! ### Days and their dates -/

theorem number_eq_dayOfYear
    {year month day : Int}
    {found : Day}
    (isDay : toDay year month day = .ok found) :
    (found.number : Int) = newYear year + dayOfYear month day - 1 := by
  obtain ⟨isYear, isMonth, first, -⟩ := isDate_of_toDay isDay
  obtain ⟨-, -, number⟩ := number_of_fields? (fields?_toDay isDay).2
  have yearFound : (year.toNat : Int) = year := Int.toNat_of_nonneg (by omega)
  have monthFound : (month.toNat : Int) = month := Int.toNat_of_nonneg (by omega)
  have dayFound : (day.toNat : Int) = day := Int.toNat_of_nonneg (by omega)
  simpa only [yearFound, monthFound, dayFound] using number

/-- A day is the day of the date that is read off it. -/
theorem toDay_of_fields?
    {day : Day}
    {date : DateFields}
    (isDate : fields? day = some date) :
    toDay date.year date.month date.day = .ok day := by
  obtain ⟨found, isDay⟩ := exists_toDay (flaw?_fields? isDate)
  obtain ⟨-, -, number⟩ := number_of_fields? isDate
  have foundNumber := number_eq_dayOfYear isDay
  have same : found = day := Day.ext (by omega)
  rw [isDay, same]

theorem newYear_le
    {year later : Int}
    (inOrder : year ≤ later) :
    newYear year ≤ newYear later := by
  refine monotone_int_of_le_succ (fun year => ?_) inOrder
  rw [newYear_succ]
  exact Int.le_add_of_nonneg_right (Int.natCast_nonneg _)

/-- A year has ended when a later one begins. -/
theorem newYear_add_yearLength_le
    {year later : Int}
    (before : year < later) :
    newYear year + yearLength year ≤ newYear later := by
  rw [← newYear_succ]
  exact newYear_le before

/-- The calendar has the dates of the days from its first new year day on, until its last year has
ended. -/
theorem exists_fields?_iff (day : Day) :
    (∃ date, fields? day = some date) ↔
      newYear 1 ≤ day.number ∧ (day.number : Int) < newYear (lastYear + 1) := by
  obtain ⟨number, inYear⟩ := newYear_splitYears day.number
  have sameYear : (∃ date, fields? day = some date) ↔
      1 ≤ (splitYears day.number).1 ∧ (splitYears day.number).1 ≤ lastYear := by
    unfold fields?
    dsimp only
    split <;> simp [*]
  rw [sameYear]
  generalize (splitYears day.number).1 = year at number inYear ⊢
  refine and_congr ⟨fun begun => ?_, fun starts => ?_⟩ ⟨fun inside => ?_, fun ends => ?_⟩
  · have opened := newYear_le begun
    omega
  · by_contra early
    have ended := newYear_add_yearLength_le (Int.lt_of_not_ge early)
    omega
  · have ended := newYear_add_yearLength_le (Int.lt_add_one_of_le inside)
    omega
  · by_contra late
    have opened := newYear_le (Int.add_one_le_of_lt (Int.lt_of_not_ge late))
    omega

/-! ### The order of dates -/

theorem dayOfYear_le_yearLength
    {year month day : Int}
    (isDate : IsDate year month day) :
    1 ≤ dayOfYear month day ∧ dayOfYear month day ≤ yearLength year := by
  obtain ⟨-, isMonth, first, last⟩ := isDate
  unfold dayOfYear yearLength
  split_ifs at last ⊢ <;> omega

/-- Within a year, a later date has a later place. -/
theorem dayOfYear_lt
    {year month day laterMonth laterDay : Int}
    (isDate : IsDate year month day)
    (isLater : IsDate year laterMonth laterDay)
    (before : month < laterMonth ∨ month = laterMonth ∧ day < laterDay) :
    dayOfYear month day < dayOfYear laterMonth laterDay := by
  obtain ⟨-, isMonth, first, last⟩ := isDate
  obtain ⟨-, isLaterMonth, laterFirst, laterLast⟩ := isLater
  unfold dayOfYear
  split_ifs at last ⊢ <;> omega

/-- In the order of year, month and day, the earlier one of two dates has the earlier day. -/
theorem number_lt_of_lex
    {year month day laterYear laterMonth laterDay : Int}
    {found later : Day}
    (isDay : toDay year month day = .ok found)
    (isLater : toDay laterYear laterMonth laterDay = .ok later)
    (before : toLex (year, toLex (month, day)) < toLex (laterYear, toLex (laterMonth, laterDay))) :
    found.number < later.number := by
  have isDate := isDate_of_toDay isDay
  have isLaterDate := isDate_of_toDay isLater
  have number := number_eq_dayOfYear isDay
  have laterNumber := number_eq_dayOfYear isLater
  simp only [Prod.Lex.toLex_lt_toLex] at before
  rcases before with earlierYear | ⟨rfl, inYear⟩
  · have ended := newYear_add_yearLength_le earlierYear
    have place := dayOfYear_le_yearLength isDate
    have laterPlace := dayOfYear_le_yearLength isLaterDate
    omega
  · have places := dayOfYear_lt isDate isLaterDate inYear
    omega

theorem number_lt_iff_lex
    {year month day laterYear laterMonth laterDay : Int}
    {found later : Day}
    (isDay : toDay year month day = .ok found)
    (isLater : toDay laterYear laterMonth laterDay = .ok later) :
    found.number < later.number ↔
      toLex (year, toLex (month, day)) < toLex (laterYear, toLex (laterMonth, laterDay)) := by
  refine ⟨fun earlier => ?_, number_lt_of_lex isDay isLater⟩
  rcases lt_trichotomy (toLex (year, toLex (month, day)))
    (toLex (laterYear, toLex (laterMonth, laterDay))) with before | same | behind
  · exact before
  · cases same
    cases isDay.symm.trans isLater
    exact absurd earlier (Nat.lt_irrefl _)
  · exact absurd earlier (Nat.lt_asymm (number_lt_of_lex isLater isDay behind))

end Solar

namespace Date

open Solar

theorem ofParts_solar_eq_ok_iff
    {year month day : Int}
    {found : Day} :
    ofParts .solar year (some month) day = .ok ⟨.solar, found⟩ ↔
      Solar.toDay year month day = .ok found := by
  simp only [ofParts, build]
  cases toDay year month day with
  | ok day => simp [bind, Except.bind, pure, Except.pure]
  | error flaw =>
    simp only [Fault.raise_bind, reduceCtorEq, iff_false]
    exact Fault.raise_ne_ok

theorem exists_toDay_of_ofParts
    {year month day : Int}
    {date : Date}
    (built : ofParts .solar year (some month) day = .ok date) :
    Solar.toDay year month day = .ok date.day := by
  have system : date.system = .solar := by
    obtain ⟨found, -, same⟩ := Attempt.bind_eq_ok_iff.1 built
    cases same
    rfl
  obtain ⟨_, found⟩ := date
  cases system
  exact ofParts_solar_eq_ok_iff.1 built

/-- The numbers of a date of the calendar can all be written. -/
theorem writable_of_isDate
    {year month day : Int}
    (isDate : IsDate year month day) :
    ∀ n ∈ [year, month, day], Text.isWritable n = true := by
  obtain ⟨isYear, isMonth, isDay⟩ := ((hasDate_iff_isDate year month day).2 isDate).bounds
  intro n member
  simp only [List.mem_cons, List.not_mem_nil, or_false] at member
  exact Text.isWritable_of_bounds (by omega) (by omega)

/-- Of numbers that are no date of the calendar it is told so, if they can be written. -/
theorem ofParts_solar_of_not_isDate
    {year month day : Int}
    (noDate : ¬ IsDate year month day) :
    ∃ flaw, ofParts .solar year (some month) day =
      Fault.raise (.solarDate year month day flaw) := by
  cases refused : Solar.toDay year month day with
  | ok found => exact absurd (isDate_of_toDay refused) noDate
  | error flaw =>
    refine ⟨flaw, ?_⟩
    simp only [ofParts, build, refused]
    exact Fault.raise_bind _ _


theorem exists_fields_solar_iff (day : Day) :
    (∃ fields, Date.fields ⟨.solar, day⟩ = .ok fields) ↔
      Gregorian.dayNumber ⟨622, 3, 21⟩ ≤ day.number ∧
        day.number ≤ Gregorian.dayNumber ⟨9999, 3, 20⟩ := by
  have first : (newYear 1 : Int) = Gregorian.dayNumber ⟨622, 3, 21⟩ := by decide
  have last : (newYear (lastYear + 1) : Int) = Gregorian.dayNumber ⟨9999, 3, 20⟩ + 1 := by decide
  simp only [fields_solar_eq_ok_iff]
  rw [exists_fields?_iff, first, last]
  omega

/-- Solar dates survive being kept as days.  The numbers of a date of the calendar are those that
the date built from them shows, and all other numbers are refused, unless one of them is too long to
be written in the refusal; the days from the first new year
day to the last day of the last year, and no others, have dates from which they are built again; and
the order of dates is that of their days. -/
theorem ofParts_solar (year month day : Int) :
    (IsDate year month day →
      ∃ date fields,
        ofParts .solar year (some month) day = .ok date ∧ date.fields = .ok fields ∧
          (fields.year : Int) = year ∧ (fields.month : Int) = month ∧
          (fields.day : Int) = day) ∧
    (¬ IsDate year month day →
      ((∀ n ∈ [year, month, day], Text.isWritable n = true) →
        ∃ fault,
          ofParts .solar year (some month) day = .error fault ∧ fault.category = .date) ∧
      (¬ (∀ n ∈ [year, month, day], Text.isWritable n = true) →
        ofParts .solar year (some month) day = .error .unwritable)) ∧
    (∀ stored : Day,
      ((∃ fields, Date.fields ⟨.solar, stored⟩ = .ok fields) ↔
        Gregorian.dayNumber ⟨622, 3, 21⟩ ≤ stored.number ∧
          stored.number ≤ Gregorian.dayNumber ⟨9999, 3, 20⟩) ∧
      ∀ fields, Date.fields ⟨.solar, stored⟩ = .ok fields →
        ofParts .solar fields.year (some (fields.month : Int)) fields.day = .ok ⟨.solar, stored⟩) ∧
    ∀ (laterYear laterMonth laterDay : Int) (date later : Date),
      ofParts .solar year (some month) day = .ok date →
        ofParts .solar laterYear (some laterMonth) laterDay = .ok later →
          (date.day.number < later.day.number ↔
            toLex (year, toLex (month, day)) <
              toLex (laterYear, toLex (laterMonth, laterDay))) := by
  refine ⟨?_, fun noDate => ?_, fun stored => ⟨exists_fields_solar_iff stored, ?_⟩, ?_⟩
  · intro isDate
    obtain ⟨date, built⟩ := exists_ofParts ((hasDate_iff_isDate year month day).2 isDate)
    obtain ⟨given, same, -, shown⟩ := fields_ofParts built
    obtain ⟨isYear, isMonth, first, -⟩ := isDate
    cases same
    exact ⟨date, _, built, shown, Int.toNat_of_nonneg (by omega), Int.toNat_of_nonneg (by omega),
      Int.toNat_of_nonneg (by omega)⟩
  · obtain ⟨flaw, refused⟩ := ofParts_solar_of_not_isDate noDate
    rw [refused]
    exact ⟨fun writable => ⟨_, Fault.raise_of_writable writable, rfl⟩,
      fun unwritable => Fault.raise_of_not_writable unwritable⟩
  · intro fields shown
    apply ofParts_solar_eq_ok_iff.2
    apply toDay_of_fields?
    exact fields_solar_eq_ok_iff.1 shown
  · intro laterYear laterMonth laterDay date later built laterBuilt
    exact number_lt_iff_lex (exists_toDay_of_ofParts built) (exists_toDay_of_ofParts laterBuilt)

/-- A leap day, its absence a year later, and the new year day that follows it. -/
theorem ofParts_solar_leapDay :
    let leapDay : Day := ⟨739330, by decide, by decide⟩
    let newYearDay : Day := ⟨739331, by decide, by decide⟩
    (∃ date fields,
      ofParts .solar 1403 (some 12) 30 = .ok date ∧ date.fields = .ok fields ∧
        (fields.year : Int) = 1403 ∧ (fields.month : Int) = 12 ∧ (fields.day : Int) = 30) ∧
    (∃ fault, ofParts .solar 1404 (some 12) 30 = .error fault ∧ fault.category = .date) ∧
    ofParts .solar (1403 : Nat) (some (12 : Nat)) (30 : Nat) = .ok ⟨.solar, leapDay⟩ ∧
    (leapDay.number < newYearDay.number ↔
      toLex ((1403 : Int), toLex ((12 : Int), (30 : Int))) <
        toLex ((1404 : Int), toLex ((1 : Int), (1 : Int)))) := by
  intro leapDay newYearDay
  have leapShown : Solar.fields? leapDay = some ⟨1403, 12, 30⟩ := by decide
  have newYearShown : Solar.fields? newYearDay = some ⟨1404, 1, 1⟩ := by decide
  obtain ⟨built, -, rebuilt, ordered⟩ := ofParts_solar 1403 12 30
  have leapBuilt := (rebuilt leapDay).2 _ (fields_solar_eq_ok_iff.2 leapShown)
  have newYearBuilt := (rebuilt newYearDay).2 _ (fields_solar_eq_ok_iff.2 newYearShown)
  exact ⟨built (by decide), ((ofParts_solar 1404 12 30).2.1 (by decide)).1 (by decide), leapBuilt,
    ordered 1404 1 1 _ _ leapBuilt newYearBuilt⟩

/-- The year 10⁴³⁰⁰ is not refused as one that the calendar does not have: it has too many digits
for the refusal to be worded. -/
theorem ofParts_solar_longYear :
    ofParts .solar (10 ^ Text.digitLimit) (some 1) 1 = .error .unwritable ∧
      Fault.unwritable.category ≠ .date := by
  have unwritable : ¬ ∀ n ∈ [(10 : Int) ^ Text.digitLimit, 1, 1], Text.isWritable n = true := by
    intro writable
    have short := writable _ List.mem_cons_self
    rw [Text.not_isWritable_pow_digitLimit] at short
    cases short
  have noDate : ¬ IsDate (10 ^ Text.digitLimit) 1 1 := fun isDate =>
    unwritable (writable_of_isDate isDate)
  obtain ⟨flaw, refused⟩ := ofParts_solar_of_not_isDate noDate
  refine ⟨?_, by decide⟩
  rw [refused]
  exact Fault.raise_of_not_writable unwritable

/-! ### The months of a year -/

theorem sum_lengthOf_monthLengths (year : Int) :
    ∑ month ∈ Finset.Icc 1 12, YearPlan.lengthOf (monthLengths year) month = yearLength year := by
  unfold monthLengths yearLength
  cases isLeapResidue year <;> rfl

/-- In a year that another one follows, the dates that can be built are those within the lengths of
its months.  These lengths together lead from one new year day to the next, and a date stands in
between by its number in the year. -/
theorem monthLength_solar
    {year : Int}
    (isYear : 1 ≤ year ∧ year ≤ 9376) :
    ∃ newYearDay nextYearDay : Day, ∃ length : Nat → Nat,
      ofParts .solar year (some 1) 1 = .ok ⟨.solar, newYearDay⟩ ∧
        ofParts .solar (year + 1) (some 1) 1 = .ok ⟨.solar, nextYearDay⟩ ∧
        newYearDay.number + ∑ month ∈ Finset.Icc 1 12, length month = nextYearDay.number ∧
        ∀ month : Nat, 1 ≤ month → month ≤ 12 →
          Solar.monthLength year month = .ok (length month) ∧
            ∀ day : Int,
              ((∃ date, ofParts .solar year (some (month : Int)) day = .ok date) ↔
                1 ≤ day ∧ day ≤ length month) ∧
              ∀ date, ofParts .solar year (some (month : Int)) day = .ok date →
                (date.day.number : Int) = newYearDay.number + (dayOfYear month day - 1) := by
  have isFollowed : 1 ≤ year ∧ year < lastYear := ⟨isYear.1, Int.lt_add_one_of_le isYear.2⟩
  obtain ⟨newYearDay, isNewYear⟩ := (exists_newYearDay_iff year).2 (by omega)
  obtain ⟨nextYearDay, isNextYear⟩ := (exists_newYearDay_iff (year + 1)).2 (by omega)
  have number := number_newYearDay isNewYear
  have nextNumber := number_newYearDay isNextYear
  refine ⟨newYearDay, nextYearDay, YearPlan.lengthOf (monthLengths year),
    ofParts_solar_eq_ok_iff.2 isNewYear, ofParts_solar_eq_ok_iff.2 isNextYear, ?_, ?_⟩
  · have next := newYear_succ year
    rw [sum_lengthOf_monthLengths]
    omega
  · intro month first last
    refine ⟨monthLength_eq ⟨first, last⟩ fun _ => isFollowed, ?_⟩
    intro day
    constructor
    · rw [exists_ofParts_iff]
      simp only [CalendarSystem.HasDate, Int.toNat_natCast]
      omega
    · intro date built
      have place := number_eq_dayOfYear (exists_toDay_of_ofParts built)
      omega

/-- The last month of a leap year has a thirtieth day and no thirty-first. -/
theorem monthLength_solar_leapYear :
    (1 ≤ (1403 : Int) ∧ (1403 : Int) ≤ 9376) ∧ Solar.monthLength 1403 12 = .ok 30 ∧
      (∃ date, ofParts .solar 1403 (some 12) 30 = .ok date) ∧
      ¬ ∃ date, ofParts .solar 1403 (some 12) 31 = .ok date := by
  have isYear : 1 ≤ (1403 : Int) ∧ (1403 : Int) ≤ 9376 := by decide
  obtain ⟨newYearDay, nextYearDay, length, -, -, -, months⟩ := monthLength_solar isYear
  obtain ⟨known, days⟩ := months 12 (by decide) (by decide)
  have computed : Solar.monthLength 1403 12 = .ok 30 := rfl
  have long : length 12 = 30 := Except.ok.inj (known.symm.trans computed)
  refine ⟨isYear, computed, (days 30).1.2 (by omega), fun found => ?_⟩
  have within := (days 31).1.1 found
  omega

end Date

end Daybook
