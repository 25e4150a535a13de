import Daybook.Proofs.Attempt
import Daybook.Proofs.Path.Recovery

/-!
Contract: the figures by which a text shows a date.

Owns:
- the letters of the week and quarter forms, and what may stand behind them;
- runs of figures inside a text;
- the numbers that the figures of a date spell, and the fault of those that spell none.

Does not own: where a form stands in a text, or how the figures came there.
-/

namespace Daybook.Path

/-! ### Figures at the head of a text -/

theorem eq_append_of_fourFigures?
    {text year rest : Text}
    (found : fourFigures? text = some (year, rest)) :
    text = year ++ rest ∧ year.length = 4 ∧ year.all Text.isFigure = true := by
  unfold fourFigures? at found
  split at found
  · split at found
    · rename_i figures
      cases found
      exact ⟨rfl, rfl, figures⟩
    · cases found
  · cases found

/-! ### The letters of the forms -/

/-- The text behind a letter at the head of a text. -/
def behind? (letter : Char) : Text → Option Text
  | c :: rest => if c = letter then some rest else none
  | [] => none

/-- The figure at the head of a text. -/
def oneFigure? : Text → Option Char
  | figure :: _ => if Text.isFigure figure then some figure else none
  | [] => none

theorem eq_cons_of_behind?
    {letter : Char}
    {text rest : Text}
    (found : behind? letter text = some rest) :
    text = letter :: rest := by
  cases text with
  | nil => contradiction
  | cons c after =>
    simp only [behind?, Option.ite_none_right_eq_some, Option.some.injEq] at found
    rw [found.1, found.2]

theorem exists_cons_of_oneFigure?
    {text : Text}
    {figure : Char}
    (found : oneFigure? text = some figure) :
    ∃ rest, text = figure :: rest ∧ Text.isFigure figure = true := by
  cases text with
  | nil => contradiction
  | cons c rest =>
    simp only [oneFigure?, Option.ite_none_right_eq_some, Option.some.injEq] at found
    exact ⟨rest, by rw [found.2], found.2 ▸ found.1⟩

theorem weekAt?_eq (text : Text) :
    weekAt? text =
      (fourFigures? text).bind fun found =>
        (behind? 'W' (skipJoint found.2)).bind fun rest =>
          (fewFigures? rest).map fun week => ⟨found.1, none, none, some week.1, none⟩ := by
  unfold weekAt?
  cases fourFigures? text with
  | none => rfl
  | some found =>
    dsimp only [Option.bind_some]
    split
    · rename_i rest skipped
      rw [skipped, behind?, if_pos rfl]
      rfl
    · rename_i other
      cases skipped : skipJoint found.2 with
      | nil => rfl
      | cons c rest =>
        rw [behind?, if_neg]
        · rfl
        · rintro rfl
          exact other rest skipped

theorem quarterAt?_eq (text : Text) :
    quarterAt? text =
      (fourFigures? text).bind fun found =>
        (behind? 'Q' (skipJoint found.2)).bind fun rest =>
          (oneFigure? rest).map fun figure => ⟨found.1, none, none, none, some [figure]⟩ := by
  unfold quarterAt?
  cases fourFigures? text with
  | none => rfl
  | some found =>
    dsimp only [Option.bind_some]
    split
    · rename_i figure rest skipped
      rw [skipped, behind?, if_pos rfl, Option.bind_some, oneFigure?]
      split <;> rfl
    · rename_i other
      cases skipped : skipJoint found.2 with
      | nil => rfl
      | cons c rest =>
        rw [behind?]
        split
        · rename_i letter
          cases letter
          cases rest with
          | nil => rfl
          | cons figure rest => exact absurd skipped (other figure rest)
        · rfl

/-! ### Runs of figures in a text -/

/-- Whether a run of figures stands somewhere in a text. -/
def IsRunIn (text run : Text) : Prop :=
  run <:+: text ∧ run.all Text.isFigure = true

theorem IsRunIn.mono
    {text whole run : Text}
    (isRun : IsRunIn text run)
    (inside : text <:+: whole) :
    IsRunIn whole run :=
  ⟨isRun.1.trans inside, isRun.2⟩

namespace DateFigures

/-- The runs of figures that a date is shown by. -/
def runs (figures : DateFigures) : List Text :=
  figures.year :: [figures.month, figures.day, figures.week, figures.quarter].filterMap id

theorem mem_runs_iff
    (figures : DateFigures)
    (run : Text) :
    run ∈ figures.runs ↔
      run = figures.year ∨ figures.month = some run ∨ figures.day = some run ∨
        figures.week = some run ∨ figures.quarter = some run := by
  simp [runs, eq_comm]

/-- Whether a date is shown by runs of figures of a text, its year by four of them. -/
structure StandIn (figures : DateFigures) (text : Text) : Prop where
  four : figures.year.length = 4
  runs : ∀ run ∈ figures.runs, IsRunIn text run

theorem StandIn.mono
    {figures : DateFigures}
    {text whole : Text}
    (stand : figures.StandIn text)
    (inside : text <:+: whole) :
    figures.StandIn whole where
  four := stand.four
  runs := fun run member => (stand.runs run member).mono inside

end DateFigures

/-! ### Figures and their numbers -/

namespace DateFigures

/-- Whether all figures of a date have values, so that they spell numbers. -/
def HaveValues (figures : DateFigures) : Prop :=
  ∀ run ∈ figures.runs, run.all Text.isDigit = true

instance (figures : DateFigures) : Decidable figures.HaveValues :=
  inferInstanceAs (Decidable (∀ run ∈ figures.runs, run.all Text.isDigit = true))

/-- The parts of a date that its figures spell, of which those without a value count as zero. -/
def values (figures : DateFigures) : DateParts :=
  let value (run : Text) : Int := Text.digitsValue run
  ⟨value figures.year, some ((figures.month.map value).getD 1), figures.day.map value,
    figures.week.map value, figures.quarter.map value⟩

/-- The first run of figures that spells no number. -/
def unvalued? (figures : DateFigures) : Option Text :=
  figures.runs.find? fun run => !run.all Text.isDigit

theorem haveValues_iff_unvalued?
    {figures : DateFigures} :
    figures.HaveValues ↔ figures.unvalued? = none := by
  simp [HaveValues, unvalued?]

/-- A run of figures that may be missing is read, or it ends the reading as it spells no number. -/
theorem optionalNumber_bind
    {α : Type}
    (run? : Option Text)
    (next : Option Int → Except Fault α) :
    (optionalNumber run? >>= next) =
      match run?.filter fun run => !run.all Text.isDigit with
      | some run => .error (.numeral run .malformed)
      | none => next (run?.map fun run => (Text.digitsValue run : Int)) := by
  cases run? with
  | none => rfl
  | some run =>
    by_cases digits : run.all Text.isDigit = true <;>
      simp [optionalNumber, number, Option.filter, digits, bind, Except.bind, pure, Except.pure]

theorem number_bind
    {α : Type}
    (run : Text)
    (next : Int → Except Fault α) :
    (number run >>= next) =
      if run.all Text.isDigit then next (Text.digitsValue run)
      else .error (.numeral run .malformed) := by
  unfold number
  split <;> rfl

theorem find?_optional
    (test : Text → Bool)
    (run? : Option Text)
    (others : List (Option Text)) :
    ((run? :: others).filterMap id).find? test =
      (run?.filter test).or ((others.filterMap id).find? test) := by
  cases run? with
  | none => simp
  | some run => cases tested : test run <;> simp [Option.filter, tested]

/-- Figures are read in order, up to the first run that spells no number. -/
theorem parts_eq (figures : DateFigures) :
    figures.parts =
      match figures.unvalued? with
      | some run => .error (.numeral run .malformed)
      | none => .ok figures.values := by
  simp only [parts, number_bind, optionalNumber_bind, unvalued?, runs, List.find?_cons,
    find?_optional]
  cases year : figures.year.all Text.isDigit with
  | false => rfl
  | true =>
    cases figures.month.filter fun run => !run.all Text.isDigit with
    | some run => rfl
    | none =>
      cases figures.day.filter fun run => !run.all Text.isDigit with
      | some run => rfl
      | none =>
        cases figures.week.filter fun run => !run.all Text.isDigit with
        | some run => rfl
        | none =>
          cases figures.quarter.filter fun run => !run.all Text.isDigit with
          | some run => rfl
          | none => rfl

/-- Figures with values are the parts of a date, whose year they spell. -/
theorem exists_parts
    {figures : DateFigures}
    (valued : figures.HaveValues) :
    ∃ parts, figures.parts = .ok parts ∧ parts.year = Text.digitsValue figures.year := by
  refine ⟨figures.values, ?_, rfl⟩
  rw [parts_eq, haveValues_iff_unvalued?.1 valued]

theorem haveValues_of_parts
    {figures : DateFigures}
    {parts : DateParts}
    (read : figures.parts = .ok parts) :
    figures.HaveValues := by
  apply haveValues_iff_unvalued?.2
  rw [parts_eq] at read
  split at read
  · contradiction
  · assumption

/-- The only fault of figures is that some of them have no value. -/
theorem numeral_of_parts
    {figures : DateFigures}
    {fault : Fault}
    (failed : figures.parts = .error fault) :
    ∃ run, fault = .numeral run .malformed := by
  rw [parts_eq] at failed
  split at failed
  · rename_i run _
    exact ⟨run, (Except.error.inj failed).symm⟩
  · contradiction

end DateFigures

end Daybook.Path
