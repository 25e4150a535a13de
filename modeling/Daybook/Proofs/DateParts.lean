import Daybook.DateParts
import Daybook.Proofs.Text.Reading
import Mathlib.Data.List.Forall2

/-!
Contract: the parts of a date are read again from their record.

Owns:
- the values and the records in which numbers are spelled out;
- the value that stands under each name in the record of some parts;
- reading numbers, optional numbers and months that may be spelled out;
- the parts that are read from their own record, whichever numbers are spelled out in it.

Does not own: records that do not come from parts.
-/

namespace Daybook

namespace DateParts

/-! ### Numbers that are spelled out -/

/-- What a value may be written as: itself, or, for a number whose digits are not too many to be
read, its decimal spelling. -/
inductive Spelled : Value → Value → Prop where
  | same (value : Value) : Spelled value value
  | spelling
    {number : Int}
    (short : (Text.ofNat number.natAbs).length ≤ Text.digitLimit) :
    Spelled (.int number) (.text (Text.ofInt number))

/-- What a record may be written as: the same names in the same order, any of its numbers spelled
out. -/
def SpelledRecord : Record → Record → Prop :=
  List.Forall₂ fun field written => field.1 = written.1 ∧ Spelled field.2 written.2

/-- A record with spelled numbers has a value under the same names, as it is or spelled out. -/
theorem SpelledRecord.get?
    {fields written : Record}
    (spelled : SpelledRecord fields written)
    (name : Text) :
    Option.Rel Spelled (Record.get? fields name) (Record.get? written name) := by
  induction spelled with
  | nil => exact .none
  | @cons field other _ _ same _ inductionHypothesis =>
    obtain ⟨known, value⟩ := field
    obtain ⟨other, written⟩ := other
    obtain ⟨rfl, value⟩ := same
    unfold Record.get? at inductionHypothesis ⊢
    rw [List.lookup_cons, List.lookup_cons]
    cases name == known with
    | true => exact .some value
    | false => exact inductionHypothesis

theorem wholeNumber_of_spelled
    {number : Int}
    {value : Value}
    (spelled : Spelled (.int number) value) :
    wholeNumber value = .ok number := by
  cases spelled with
  | same => rfl
  | spelling short => rw [wholeNumber, Text.readInt_ofInt_of_short short]

/-- A part that may be left out is read again as it was. -/
theorem optionalNumber_of_spelled
    {part : Option Int}
    {found : Option Value}
    (spelled : Option.Rel Spelled (part.map Value.int) found) :
    optionalNumber found = .ok part := by
  cases part with
  | none =>
    cases spelled
    rfl
  | some number =>
    obtain @⟨-, value, isSpelled⟩ := spelled
    have read := wholeNumber_of_spelled isSpelled
    cases isSpelled with
    | same => rfl
    | spelling short =>
      obtain ⟨c, rest, whole⟩ := List.exists_cons_of_ne_nil (Text.ofInt_ne_nil number)
      rw [whole] at read ⊢
      show (do pure (some (← wholeNumber (.text (c :: rest))))) = Except.ok (some number)
      rw [read]
      rfl

/-- A month counts as given unless it is a zero that is not spelled out. -/
theorem isGiven_of_spelled
    {month : Int}
    {value : Value}
    (spelled : Spelled (.int month) value) :
    value.isGiven = true ↔ value ≠ .int 0 := by
  cases spelled with
  | same => simp [Value.isGiven]
  | spelling short => simp [Value.isGiven, Text.ofInt_ne_nil]

/-! ### The record of some parts -/

section Fields

variable (parts : DateParts)

theorem get?_toRecord_year : Record.get? parts.toRecord yearName = some (.int parts.year) :=
  rfl

theorem get?_toRecord_month :
    Record.get? parts.toRecord monthName = some (valueOf parts.month) :=
  rfl

theorem get?_toRecord_day : Record.get? parts.toRecord dayName = parts.day.map Value.int := by
  obtain ⟨year, month, day, week, quarter⟩ := parts
  cases day <;> cases week <;> cases quarter <;> rfl

theorem get?_toRecord_week : Record.get? parts.toRecord weekName = parts.week.map Value.int := by
  obtain ⟨year, month, day, week, quarter⟩ := parts
  cases day <;> cases week <;> cases quarter <;> rfl

theorem get?_toRecord_quarter :
    Record.get? parts.toRecord quarterName = parts.quarter.map Value.int := by
  obtain ⟨year, month, day, week, quarter⟩ := parts
  cases day <;> cases week <;> cases quarter <;> rfl

end Fields

/-! ### Reading again -/

/-- From the record of some parts, spelled out anywhere, all parts are read as they were but the
month, which is the first one if it does not count as given. -/
theorem ofRecord_of_spelled
    {parts : DateParts}
    {month : Int}
    (isMonth : parts.month = some month)
    {record : Record}
    (spelled : SpelledRecord parts.toRecord record) :
    ∃ value, Record.get? record monthName = some value ∧ Spelled (.int month) value ∧
      ofRecord record =
        .ok { parts with month := some (if value.isGiven then month else 1) } := by
  have ofMonth := spelled.get? monthName
  rw [get?_toRecord_month, isMonth, valueOf] at ofMonth
  have ofYear := spelled.get? yearName
  rw [get?_toRecord_year] at ofYear
  generalize monthFound : Record.get? record monthName = foundMonth at ofMonth
  generalize yearFound : Record.get? record yearName = foundYear at ofYear
  obtain @⟨-, value, monthSpelled⟩ := ofMonth
  obtain @⟨-, year, yearSpelled⟩ := ofYear
  refine ⟨value, rfl, monthSpelled, ?_⟩
  have day := optionalNumber_of_spelled (parts.get?_toRecord_day ▸ spelled.get? dayName)
  have week := optionalNumber_of_spelled (parts.get?_toRecord_week ▸ spelled.get? weekName)
  have quarter :=
    optionalNumber_of_spelled (parts.get?_toRecord_quarter ▸ spelled.get? quarterName)
  unfold ofRecord
  rw [yearFound, monthFound, day, week, quarter, Option.getD_some]
  dsimp only
  rw [wholeNumber_of_spelled yearSpelled, wholeNumber_of_spelled monthSpelled]
  split <;> rfl

/-- Parts with a month are read again from their record, whichever of its numbers are spelled out,
unless the month is zero and stands there as a number: that is read as the first month. -/
theorem ofRecord_eq_ok_iff_of_spelled
    {parts : DateParts}
    (hasMonth : parts.month.isSome = true)
    {record : Record}
    (spelled : SpelledRecord parts.toRecord record) :
    (ofRecord record = .ok parts ↔ Record.get? record monthName ≠ some (.int 0)) ∧
      (Record.get? record monthName = some (.int 0) →
        ofRecord record = .ok { parts with month := some 1 }) := by
  obtain ⟨month, isMonth⟩ := Option.isSome_iff_exists.1 hasMonth
  obtain ⟨value, found, monthSpelled, read⟩ := ofRecord_of_spelled isMonth spelled
  have given := isGiven_of_spelled monthSpelled
  rw [found, read, ne_eq, Option.some.injEq]
  by_cases isZero : value = .int 0
  · subst isZero
    cases monthSpelled
    refine ⟨iff_of_false ?_ (not_not_intro rfl), fun _ => rfl⟩
    intro same
    have months := congrArg DateParts.month (Except.ok.inj same)
    rw [isMonth] at months
    cases months
  · rw [if_pos (given.2 isZero), ← isMonth]
    exact ⟨iff_of_true rfl isZero, fun impossible => absurd impossible isZero⟩

/-- A zero month that is spelled out, beside a spelled negative week and a quarter of zero. -/
theorem ofRecord_spelledZeroMonth :
    let parts : DateParts := ⟨1403, some 0, none, some (-7), some 0⟩
    let record : Record :=
      [(yearName, .int 1403), (monthName, .text ['0']), (weekName, .text ['-', '7']),
        (quarterName, .int 0)]
    parts.month.isSome = true ∧ SpelledRecord parts.toRecord record ∧
      ofRecord record = .ok parts := by
  intro parts record
  have zero : Spelled (.int 0) (.text ['0']) := .spelling (by decide)
  have minusSeven : Spelled (.int (-7)) (.text ['-', '7']) := .spelling (by decide)
  have spelled : SpelledRecord parts.toRecord record :=
    .cons ⟨rfl, .same _⟩ (.cons ⟨rfl, zero⟩ (.cons ⟨rfl, minusSeven⟩ (.cons ⟨rfl, .same _⟩ .nil)))
  refine ⟨rfl, spelled, (ofRecord_eq_ok_iff_of_spelled rfl spelled).1.2 ?_⟩
  intro impossible
  cases impossible

/-- A month of zero does not survive the record that it is listed in. -/
theorem ofRecord_toRecord_zeroMonth :
    let parts : DateParts := ⟨1403, some 0, none, none, none⟩
    ofRecord parts.toRecord = .ok ⟨1403, some 1, none, none, none⟩ ∧
      ofRecord parts.toRecord ≠ .ok parts := by
  intro parts
  have read : ofRecord parts.toRecord = .ok ⟨1403, some 1, none, none, none⟩ := rfl
  have differs : (⟨1403, some 1, none, none, none⟩ : DateParts) ≠ parts := by decide
  exact ⟨read, fun same => differs (Except.ok.inj (read.symm.trans same))⟩

end DateParts

end Daybook
