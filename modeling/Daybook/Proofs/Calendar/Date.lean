import Daybook.Calendar.Building
import Daybook.Proofs.Calendar.Gregorian
import Daybook.Proofs.Calendar.Solar
import Daybook.Proofs.Writing

/-!
Contract: the dates of both calendars, and what is read off them again.

Owns:
- the dates that a calendar has;
- a date that is built from its parts, and its fields;
- a date that is moved to another week;
- the bounds of years and weeks in both calendars.

Does not own: the arithmetic of either calendar.
-/

namespace Daybook

namespace Day

theorem exists_ofNumber?
    {number : Int}
    (inside : 1 ≤ number ∧ number ≤ lastDayNumber) :
    ∃ day, ofNumber? number = some day := by
  unfold ofNumber?
  rw [dif_pos inside]
  exact ⟨_, rfl⟩

theorem ofNumber?_eq_none
    {number : Int}
    (outside : ¬ (1 ≤ number ∧ number ≤ lastDayNumber)) :
    ofNumber? number = none := by
  unfold ofNumber?
  rw [dif_neg outside]

end Day

/-- Whether a calendar has the date of that year, month and day. -/
def CalendarSystem.HasDate (system : CalendarSystem) (year month day : Int) : Prop :=
  match system with
  | .solar =>
    (1 ≤ year ∧ year ≤ Solar.lastYear) ∧ (1 ≤ month ∧ month ≤ 12) ∧
      (1 ≤ day ∧ day ≤ YearPlan.lengthOf (Solar.monthLengths year) month.toNat)
  | .gregorian =>
    (1 ≤ year ∧ year ≤ 9999) ∧ (1 ≤ month ∧ month ≤ 12) ∧
      (1 ≤ day ∧ day ≤ YearPlan.lengthOf (Gregorian.monthLengths year.toNat) month.toNat)

namespace CalendarSystem

instance (system : CalendarSystem) (year month day : Int) :
    Decidable (system.HasDate year month day) := by
  unfold HasDate
  cases system <;> infer_instance

/-- Years have four digits, months and days two. -/
theorem HasDate.bounds
    {system : CalendarSystem}
    {year month day : Int}
    (isDate : system.HasDate year month day) :
    (1 ≤ year ∧ year ≤ 9999) ∧ (1 ≤ month ∧ month ≤ 12) ∧ (1 ≤ day ∧ day ≤ 31) := by
  cases system with
  | solar =>
    obtain ⟨isYear, isMonth, firstDay, lastDay⟩ := isDate
    have short : ∀ length ∈ Solar.monthLengths year, length ≤ 31 := by
      unfold Solar.monthLengths
      split <;> decide
    have length := YearPlan.lengthOf_le short month.toNat
    simp only [Solar.lastYear] at isYear
    exact ⟨⟨isYear.1, by omega⟩, isMonth, firstDay, by omega⟩
  | gregorian =>
    obtain ⟨isYear, isMonth, firstDay, lastDay⟩ := isDate
    have short : ∀ length ∈ Gregorian.monthLengths year.toNat, length ≤ 31 := by
      unfold Gregorian.monthLengths
      split <;> decide
    have length := YearPlan.lengthOf_le short month.toNat
    exact ⟨isYear, isMonth, firstDay, by omega⟩

end CalendarSystem

theorem Gregorian.inWord_of_le
    {number : Int}
    (small : 1 ≤ number ∧ number ≤ 9999) :
    inWord number = true := by
  simp only [inWord, Bool.and_eq_true, decide_eq_true_eq]
  omega

namespace Date

/-- Every date that a calendar has can be built from its parts. -/
theorem exists_ofParts
    {system : CalendarSystem}
    {year month day : Int}
    (isDate : system.HasDate year month day) :
    ∃ date, ofParts system year (some month) day = .ok date := by
  have bounds := isDate.bounds
  cases system with
  | solar =>
    obtain ⟨found, isDay⟩ := Solar.exists_toDay ((Solar.flaw?_eq_none_iff year month day).2 isDate)
    refine ⟨⟨.solar, found⟩, ?_⟩
    simp only [ofParts, Solar.build, isDay]
    rfl
  | gregorian =>
    obtain ⟨found, isDay⟩ :=
      Gregorian.exists_toDay ((Gregorian.flaw?_eq_none_iff year month day).2 isDate)
    have yearInWord := Gregorian.inWord_of_le bounds.1
    have monthInWord : Gregorian.inWord month = true := Gregorian.inWord_of_le (by omega)
    have dayInWord : Gregorian.inWord day = true := Gregorian.inWord_of_le (by omega)
    refine ⟨⟨.gregorian, found⟩, ?_⟩
    simp only [ofParts, Gregorian.build, yearInWord, monthInWord, dayInWord, isDay]
    rfl

/-- A date that was built from its parts has those parts as its fields. -/
theorem fields_ofParts
    {system : CalendarSystem}
    {year day : Int}
    {month : Option Int}
    {date : Date}
    (built : ofParts system year month day = .ok date) :
    ∃ given, month = some given ∧ system.HasDate year given day ∧
      date.fields = .ok ⟨year.toNat, given.toNat, day.toNat⟩ := by
  cases system with
  | solar =>
    obtain ⟨found, builtDay, same⟩ := Attempt.bind_eq_ok_iff.1 built
    cases same
    unfold Solar.build at builtDay
    split at builtDay
    · cases builtDay
    · rename_i given
      split at builtDay
      · rename_i isDay
        cases builtDay
        obtain ⟨noFlaw, fields⟩ := Solar.fields?_toDay isDay
        refine ⟨given, rfl, (Solar.flaw?_eq_none_iff year given day).1 noFlaw, ?_⟩
        simp only [Date.fields, fields]
      · exact absurd builtDay Fault.raise_ne_ok
  | gregorian =>
    obtain ⟨found, builtDay, same⟩ := Attempt.bind_eq_ok_iff.1 built
    cases same
    unfold Gregorian.build at builtDay
    split at builtDay
    · cases builtDay
    · split at builtDay
      · cases builtDay
      · rename_i given
        split at builtDay
        · cases builtDay
        · split at builtDay
          · rename_i isDay
            cases builtDay
            obtain ⟨noFlaw, fields⟩ := Gregorian.fields_toDay isDay
            refine ⟨given, rfl, (Gregorian.flaw?_eq_none_iff year given day).1 noFlaw, ?_⟩
            simp only [Date.fields, fields]
          · cases builtDay

/-- The dates that can be built are those that the calendar has. -/
theorem exists_ofParts_iff
    {system : CalendarSystem}
    {year month day : Int} :
    (∃ date, ofParts system year (some month) day = .ok date) ↔ system.HasDate year month day := by
  constructor
  · intro found
    obtain ⟨date, built⟩ := found
    obtain ⟨given, same, isDate, -⟩ := fields_ofParts built
    rwa [Option.some.inj same]
  · exact exists_ofParts

theorem fields_solar_eq_ok_iff
    {day : Day}
    {shown : DateFields} :
    Date.fields ⟨.solar, day⟩ = .ok shown ↔ Solar.fields? day = some shown := by
  unfold Date.fields
  cases Solar.fields? day <;> simp

theorem week_solar_eq_ok
    {day : Day}
    {date : DateFields}
    (isDate : Solar.fields? day = some date) :
    Date.week ⟨.solar, day⟩ = .ok (Solar.week date) := by
  simp only [Date.week, fields_solar_eq_ok_iff.2 isDate]
  rfl

/-- The fields of a date are a date that its calendar has. -/
theorem hasDate_fields
    {date : Date}
    {fields : DateFields}
    (found : date.fields = .ok fields) :
    date.system.HasDate fields.year fields.month fields.day := by
  obtain ⟨system, day⟩ := date
  cases system with
  | gregorian =>
    cases found
    exact (Gregorian.flaw?_eq_none_iff _ _ _).1 (Gregorian.flaw?_fields day)
  | solar =>
    have isDate := fields_solar_eq_ok_iff.1 found
    exact (Solar.flaw?_eq_none_iff _ _ _).1 (Solar.flaw?_fields? isDate)

theorem toWeek_eq_ok
    {start : Date}
    {current : Nat}
    {week : Int}
    {day : Day}
    (found : start.week = .ok current)
    (isDay : Day.ofNumber? (start.day.number + 7 * (week - current)) = some day) :
    start.toWeek week = .ok ⟨start.system, day⟩ := by
  refine Attempt.bind_eq_ok_iff.2 ⟨current, found, ?_⟩
  rw [Day.shift?, isDay]
  rfl

theorem toWeek_eq_error
    {start : Date}
    {current : Nat}
    {week : Int}
    (found : start.week = .ok current)
    (noDay : Day.ofNumber? (start.day.number + 7 * (week - current)) = none) :
    start.toWeek week = .error .beyondRange := by
  refine Attempt.bind_eq_error_iff.2 (.inr ⟨current, found, ?_⟩)
  rw [Day.shift?, noDay]

theorem year_le
    {date : Date}
    {fields : DateFields}
    (found : date.fields = .ok fields) :
    fields.year ≤ 9999 := by
  obtain ⟨system, day⟩ := date
  cases system with
  | gregorian =>
    cases found
    exact (Gregorian.year_fields day).2
  | solar =>
    have isDate := fields_solar_eq_ok_iff.1 found
    obtain ⟨isYear, -⟩ := (Solar.flaw?_eq_none_iff _ _ _).1 (Solar.flaw?_fields? isDate)
    simp only [Solar.lastYear] at isYear
    omega

theorem week_le
    {date : Date}
    {week : Nat}
    (found : date.week = .ok week) :
    week ≤ 54 := by
  obtain ⟨system, day⟩ := date
  cases system with
  | gregorian =>
    cases found
    exact Nat.le_succ_of_le (Gregorian.week_le day)
  | solar =>
    obtain ⟨fields, isDate, same⟩ := Attempt.bind_eq_ok_iff.1 found
    cases same
    exact Solar.week_le (fields_solar_eq_ok_iff.1 isDate)

end Date

end Daybook
