import Daybook.Proofs.Calendar.SolarDate
import Daybook.Proofs.Text.Numeral
import Daybook.Pattern.Rendering
import Mathlib.Data.Fintype.EquivFin

/-!
Contract: the numbers of solar weeks, which count the Saturdays of the year.

Owns:
- the Saturdays between two days;
- the week of a day, as far as it is from that of an earlier day of the year;
- the bounds of a week's number, and its two digits.

Does not own: the way from a week's number to a day.
-/

namespace Daybook

namespace Day

/-! ### The Saturdays between two days -/

instance : Fintype Day :=
  Fintype.ofEquiv (Fin lastDayNumber)
    { toFun index := ⟨index + 1, by omega, by omega⟩
      invFun day := ⟨day.number - 1, by have := day.first_le; have := day.le_last; omega⟩
      left_inv _ := Fin.ext (Nat.add_sub_cancel ..)
      right_inv day := ext (Nat.sub_add_cancel day.first_le) }

def IsSaturday (day : Day) : Prop :=
  day.weekday = 0

instance (day : Day) : Decidable day.IsSaturday :=
  inferInstanceAs (Decidable (day.weekday = 0))

/-- The Saturdays after the first day, up to the last one and including it. -/
def saturdays (first last : Day) : Finset Day :=
  {saturday | saturday.IsSaturday ∧ first.number < saturday.number ∧ saturday.number ≤ last.number}

@[simp] theorem mem_saturdays
    {first last saturday : Day} :
    saturday ∈ saturdays first last ↔
      saturday.IsSaturday ∧ first.number < saturday.number ∧ saturday.number ≤ last.number := by
  simp [saturdays]

@[simp] theorem saturdays_self (day : Day) : saturdays day day = ∅ := by
  ext saturday
  simp

/-- One day more adds that day, if it is a Saturday. -/
theorem saturdays_succ
    {first last next : Day}
    (inOrder : first.number ≤ last.number)
    (isNext : next.number = last.number + 1) :
    saturdays first next =
      if next.IsSaturday then insert next (saturdays first last) else saturdays first last := by
  have sameDay (saturday : Day) : saturday = next ↔ saturday.number = last.number + 1 :=
    ⟨fun same => same ▸ isNext, fun number => ext (number.trans isNext.symm)⟩
  apply Finset.ext
  intro saturday
  by_cases same : saturday = next
  · subst same
    split_ifs with isSaturday
    · simp only [mem_saturdays, Finset.mem_insert, true_or, iff_true]
      exact ⟨isSaturday, by omega, Nat.le_refl _⟩
    · simp only [mem_saturdays, isSaturday, false_and]
  · have apart := mt (sameDay saturday).2 same
    have asBefore : saturday ∈ saturdays first next ↔ saturday ∈ saturdays first last := by
      simp only [mem_saturdays]
      exact and_congr_right fun _ => by omega
    split_ifs
    · rw [asBefore, Finset.mem_insert, or_iff_right same]
    · exact asBefore

theorem card_saturdays_succ
    {first last next : Day}
    (inOrder : first.number ≤ last.number)
    (isNext : next.number = last.number + 1) :
    (saturdays first next).card =
      (saturdays first last).card + if next.IsSaturday then 1 else 0 := by
  have outside : next ∉ saturdays first last := by
    simp [isNext]
  rw [saturdays_succ inOrder isNext]
  split_ifs
  · exact Finset.card_insert_of_notMem outside
  · rw [Nat.add_zero]

end Day

namespace Solar

open Day

/-! ### Weeks from day to day -/

/-- The next day of a year opens a week, if it is a Saturday, and lies in the same week otherwise. -/
theorem week_succ
    {day next : Day}
    {date nextDate : DateFields}
    (isDate : fields? day = some date)
    (isNextDate : fields? next = some nextDate)
    (sameYear : nextDate.year = date.year)
    (isNext : next.number = day.number + 1) :
    week nextDate = week date + if next.IsSaturday then 1 else 0 := by
  have number := number_eq_week isDate
  have nextNumber := number_eq_week isNextDate
  have weekday := day.weekday_lt
  have nextWeekday := next.weekday_lt
  rw [sameYear] at nextNumber
  split_ifs with isSaturday <;> unfold IsSaturday at isSaturday <;> omega

/-- The days between two days of a year lie in that year. -/
theorem exists_fields?_between
    {first last day : Day}
    {firstDate lastDate : DateFields}
    (isFirst : fields? first = some firstDate)
    (isLast : fields? last = some lastDate)
    (sameYear : lastDate.year = firstDate.year)
    (starts : first.number ≤ day.number)
    (ends : day.number ≤ last.number) :
    ∃ date, fields? day = some date ∧ date.year = firstDate.year := by
  obtain ⟨isYear, firstPlace, firstNumber⟩ := number_of_fields? isFirst
  have lastPlace := dayOfYear_le_yearLength (isDate_of_toDay (toDay_of_fields? isLast))
  obtain ⟨-, -, lastNumber⟩ := number_of_fields? isLast
  rw [sameYear] at lastPlace lastNumber
  obtain ⟨date, isDate, year⟩ := exists_fields?_of_inYear isYear
    (show newYear firstDate.year ≤ day.number by omega)
    (show (day.number : Int) < newYear firstDate.year + yearLength firstDate.year by omega)
  exact ⟨date, isDate, Int.ofNat_inj.1 year⟩

/-- The week of a later day is further by the Saturdays that lie between. -/
theorem week_eq_add_saturdays
    {day later : Day}
    {date laterDate : DateFields}
    (isDate : fields? day = some date)
    (isLaterDate : fields? later = some laterDate)
    (sameYear : laterDate.year = date.year)
    (inOrder : day.number ≤ later.number) :
    week laterDate = week date + (saturdays day later).card := by
  -- By induction on the distance of the days: the day before the later one has a date of the same
  -- year, too, so that the next day is all that has to be counted.
  obtain ⟨distance, isDistance⟩ := Nat.exists_eq_add_of_le inOrder
  induction distance generalizing later laterDate with
  | zero =>
    have same : later = day := ext isDistance
    subst same
    cases isDate.symm.trans isLaterDate
    simp
  | succ distance inductionHypothesis =>
    have bounds := later.le_last
    have first := day.first_le
    let before : Day := ⟨day.number + distance, by omega, by omega⟩
    have isNext : later.number = before.number + 1 := isDistance
    obtain ⟨beforeDate, isBeforeDate, beforeYear⟩ :=
      exists_fields?_between isDate isLaterDate sameYear
        (show day.number ≤ before.number from Nat.le_add_right _ _)
        (show before.number ≤ later.number by omega)
    rw [week_succ isBeforeDate isLaterDate (sameYear.trans beforeYear.symm) isNext,
      inductionHypothesis isBeforeDate beforeYear (Nat.le_add_right _ _) rfl,
      card_saturdays_succ (Nat.le_add_right _ _) isNext, Nat.add_assoc]

theorem week_newYearDay (year : Nat) : week ⟨year, 1, 1⟩ = 1 := by
  simp only [week, dayOfYear]
  omega

end Solar

namespace Date

open Solar

/-- A number below one hundred that stands for a week has two digits in every locale. -/
theorem exists_tokenText_week
    {date : Date}
    {week : Nat}
    (isWeek : date.week = .ok week)
    (small : week < 100)
    (locale : Locale) :
    ∃ text, date.tokenText locale .week = .ok text ∧ text.length = 2 ∧ Text.Spells text week := by
  refine ⟨date.digits locale (Text.padded 2 week), ?_, ?_, ?_⟩
  · simp only [tokenText, isWeek]
    rfl
  · have length := Text.length_padded (show 0 < 2 by decide) (show week < Nat.pow 10 2 from small)
    unfold digits
    split
    · exact length
    · rw [Locale.length_digits, length]
  · unfold digits
    split
    · exact Text.spells_padded 2 week
    · exact locale.spells_digits (Text.spells_padded 2 week)

/-- The week of a solar date counts the Saturdays after the new year day, from one on, so that it
stays in one number of two digits.  It goes up by one on every Saturday of the year and on no other
day, and two days of a year share their week if no Saturday parts them. -/
theorem week_solar
    {day : Day}
    {date : DateFields}
    (isDate : Date.fields ⟨.solar, day⟩ = .ok date) :
    ∃ newYearDay week,
      ofParts .solar date.year (some 1) 1 = .ok ⟨.solar, newYearDay⟩ ∧
        Date.week ⟨.solar, newYearDay⟩ = .ok 1 ∧
        Date.week ⟨.solar, day⟩ = .ok week ∧
        week = 1 + (Day.saturdays newYearDay day).card ∧
        (1 ≤ week ∧ week ≤ 54) ∧
        (∀ locale, ∃ text,
          tokenText locale ⟨.solar, day⟩ .week = .ok text ∧ text.length = 2 ∧
            Text.Spells text week) ∧
        ∀ later laterDate,
          Date.fields ⟨.solar, later⟩ = .ok laterDate → laterDate.year = date.year →
            ∃ laterWeek,
              Date.week ⟨.solar, later⟩ = .ok laterWeek ∧
                (later.number = day.number + 1 →
                  laterWeek = if later.IsSaturday then week + 1 else week) ∧
                (day.number ≤ later.number →
                  (laterWeek = week ↔ Day.saturdays day later = ∅)) := by
  rw [fields_solar_eq_ok_iff] at isDate
  obtain ⟨isYear, place, number⟩ := number_of_fields? isDate
  obtain ⟨newYearDay, isNewYearDay⟩ := (exists_newYearDay_iff date.year).2 isYear
  have newYearDate := (fields?_toDay isNewYearDay).2
  have newYearNumber := number_newYearDay isNewYearDay
  have bounds : 1 ≤ Solar.week date ∧ Solar.week date ≤ 54 :=
    ⟨Nat.succ_pos _, Solar.week_le isDate⟩
  have counted := week_eq_add_saturdays newYearDate isDate (Int.toNat_natCast _).symm
    (show newYearDay.number ≤ day.number by omega)
  rw [show (1 : Int).toNat = 1 from rfl, week_newYearDay] at counted
  refine ⟨newYearDay, Solar.week date, ofParts_solar_eq_ok_iff.2 isNewYearDay, ?_,
    week_solar_eq_ok isDate, counted, bounds, ?_, ?_⟩
  · rw [week_solar_eq_ok newYearDate]
    exact congrArg Except.ok (week_newYearDay _)
  · exact exists_tokenText_week (week_solar_eq_ok isDate) (by omega)
  · intro later laterDate isLaterDate sameYear
    rw [fields_solar_eq_ok_iff] at isLaterDate
    refine ⟨Solar.week laterDate, week_solar_eq_ok isLaterDate, ?_, ?_⟩
    · intro isNext
      rw [week_succ isDate isLaterDate sameYear isNext]
      split_ifs <;> simp
    · intro inOrder
      rw [week_eq_add_saturdays isDate isLaterDate sameYear inOrder, Nat.add_eq_left,
        Finset.card_eq_zero]

/-- The first Friday of a year, and the Saturday that opens its second week. -/
theorem week_solar_firstSaturday :
    let friday : Day := ⟨738967, by decide, by decide⟩
    let saturday : Day := ⟨738968, by decide, by decide⟩
    Date.fields ⟨.solar, friday⟩ = .ok ⟨1403, 1, 3⟩ ∧
      Date.fields ⟨.solar, saturday⟩ = .ok ⟨1403, 1, 4⟩ ∧
      (∃ newYearDay,
        ofParts .solar (1403 : Nat) (some 1) 1 = .ok ⟨.solar, newYearDay⟩ ∧
          (Day.saturdays newYearDay saturday).card = 1) ∧
      Date.week ⟨.solar, friday⟩ = .ok 1 ∧
      Date.week ⟨.solar, saturday⟩ = .ok 2 ∧
      Day.saturdays friday saturday ≠ ∅ := by
  intro friday saturday
  have fridayShown : Date.fields ⟨.solar, friday⟩ = .ok ⟨1403, 1, 3⟩ :=
    fields_solar_eq_ok_iff.2 (by decide)
  have saturdayShown : Date.fields ⟨.solar, saturday⟩ = .ok ⟨1403, 1, 4⟩ :=
    fields_solar_eq_ok_iff.2 (by decide)
  have fridayWeek : Date.week ⟨.solar, friday⟩ = .ok 1 :=
    week_solar_eq_ok (fields_solar_eq_ok_iff.1 fridayShown)
  have saturdayWeek : Date.week ⟨.solar, saturday⟩ = .ok 2 :=
    week_solar_eq_ok (fields_solar_eq_ok_iff.1 saturdayShown)
  obtain ⟨newYearDay, week, built, -, isWeek, counted, -⟩ := week_solar saturdayShown
  obtain ⟨-, firstWeek, -, -, isFirst, -, -, -, following⟩ := week_solar fridayShown
  obtain ⟨next, isNext, -, apart⟩ := following saturday _ saturdayShown rfl
  cases isWeek.symm.trans saturdayWeek
  cases isFirst.symm.trans fridayWeek
  cases isNext.symm.trans saturdayWeek
  refine ⟨fridayShown, saturdayShown, ⟨newYearDay, built, by omega⟩, fridayWeek, saturdayWeek, ?_⟩
  exact mt (apart (by decide)).2 (by decide)

end Date

end Daybook
