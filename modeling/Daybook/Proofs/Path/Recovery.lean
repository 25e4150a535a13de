import Daybook.Path.Recovery
import Mathlib.Data.List.Basic

/-!
Contract: where a text shows a date, and what is around it.

Owns:
- the figures at the head of a text, and where a run of them ends;
- the date at the head of a text that begins with a year;
- the letters that week and quarter forms need;
- the search for a form behind a text without figures.

Does not own: how a date came into the text.
-/

namespace Daybook.Path

/-- A text that goes on with a figure. -/
def OpensWithFigure (text : Text) : Prop :=
  ∃ c rest, text = c :: rest ∧ Text.isFigure c = true

/-- A text whose last character is a figure. -/
def EndsWithFigure (text : Text) : Prop :=
  ∃ c, text.getLast? = some c ∧ Text.isFigure c = true

/-- A text that does not go on with a figure. -/
def StopsFigures (text : Text) : Prop :=
  ∀ c ∈ text.head?, Text.isFigure c = false

/-- What may stand between two parts of a date. -/
inductive Joint where
  | nothing
  | slash
  | dash
  deriving DecidableEq, Repr

def Joint.text : Joint → Text
  | .nothing => []
  | .slash => ['/']
  | .dash => ['-']

theorem ne_joint_of_isFigure
    {c : Char}
    (figure : Text.isFigure c = true) :
    ¬ (c = '/' ∨ c = '-') := by
  rintro (rfl | rfl)
  · exact absurd figure (by decide)
  · exact absurd figure (by decide)

theorem opensWithFigure_append
    {figures : Text}
    (given : figures ≠ [])
    (all : figures.all Text.isFigure = true)
    (rest : Text) :
    OpensWithFigure (figures ++ rest) := by
  obtain ⟨c, more, rfl⟩ := List.exists_cons_of_ne_nil given
  rw [List.all_cons, Bool.and_eq_true] at all
  exact ⟨c, more ++ rest, rfl, all.1⟩

theorem endsWithFigure_append
    (front : Text)
    {figures : Text}
    (given : figures ≠ [])
    (all : figures.all Text.isFigure = true) :
    EndsWithFigure (front ++ figures) := by
  refine ⟨figures.getLast given, ?_, List.all_eq_true.1 all _ (List.getLast_mem given)⟩
  rw [List.getLast?_append, List.getLast?_eq_some_getLast given]
  rfl

/-! ### Runs of figures -/

theorem fourFigures?_append
    {year : Text}
    (four : year.length = 4)
    (all : year.all Text.isFigure = true)
    (rest : Text) :
    fourFigures? (year ++ rest) = some (year, rest) := by
  obtain ⟨a, b, c, d, rfl⟩ : ∃ a b c d, year = [a, b, c, d] := by
    match year, four with
    | [a, b, c, d], _ => exact ⟨a, b, c, d, rfl⟩
  show (if [a, b, c, d].all Text.isFigure then some ([a, b, c, d], rest) else none) = _
  rw [if_pos all]

theorem fourFigures?_eq_none
    {c : Char}
    (noFigure : Text.isFigure c = false)
    (rest : Text) :
    fourFigures? (c :: rest) = none := by
  unfold fourFigures?
  split
  · rename_i opens
    cases opens
    rw [if_neg]
    simp [noFigure]
  · rfl

theorem suffix_of_fourFigures?
    {text year rest : Text}
    (found : fourFigures? text = some (year, rest)) :
    rest <:+ text := by
  unfold fourFigures? at found
  split at found
  · split at found
    · cases found
      exact List.suffix_append [_, _, _, _] rest
    · cases found
  · cases found

/-- One or two figures are read whole where two are read or no third one follows. -/
theorem fewFigures?_append
    {few rest : Text}
    (count : few.length = 2 ∨ few.length = 1 ∧ StopsFigures rest)
    (all : few.all Text.isFigure = true) :
    fewFigures? (few ++ rest) = some (few, rest) := by
  -- Two figures are all that is read; a single one must not be followed by another.
  rcases count with two | ⟨one, stops⟩
  · obtain ⟨a, b, rfl⟩ := List.length_eq_two.1 two
    simp only [List.all_cons, List.all_nil, Bool.and_true, Bool.and_eq_true] at all
    show (if Text.isFigure a then _ else none) = _
    rw [if_pos all.1, if_pos all.2]
    rfl
  · obtain ⟨a, rfl⟩ := List.length_eq_one_iff.1 one
    simp only [List.all_cons, List.all_nil, Bool.and_true] at all
    cases rest with
    | nil =>
      show (if Text.isFigure a then some ([a], []) else none) = _
      rw [if_pos all]
    | cons b rest =>
      have noFigure := stops b rfl
      show (if Text.isFigure a then _ else none) = _
      rw [if_pos all, noFigure, if_neg Bool.false_ne_true]

theorem skipJoint_append
    (joint : Joint)
    {rest : Text}
    (opens : OpensWithFigure rest) :
    skipJoint (joint.text ++ rest) = rest := by
  obtain ⟨c, more, rfl, figure⟩ := opens
  cases joint with
  | nothing => exact if_neg (ne_joint_of_isFigure figure)
  | slash => rfl
  | dash => rfl

theorem suffix_skipJoint (text : Text) : skipJoint text <:+ text := by
  unfold skipJoint
  split
  · split
    · exact List.suffix_cons _ _
    · exact List.suffix_refl _
  · exact List.suffix_refl _

theorem Joint.stopsFigures
    {joint : Joint}
    (given : joint ≠ .nothing)
    (rest : Text) :
    StopsFigures (joint.text ++ rest) := by
  intro c head
  cases joint with
  | nothing => exact absurd rfl given
  | slash =>
    cases head
    decide
  | dash =>
    cases head
    decide

/-! ### Forms behind a year -/

section AfterYear

variable
  {year : Text}
  (fourYear : year.length = 4)
  (allYear : year.all Text.isFigure = true)

include fourYear allYear

/-- A year, a month and a day are read whole, whatever stands between them. -/
theorem dateAt?_day
    {month day rest : Text}
    {second : Joint}
    (first : Joint)
    (countMonth : month.length = 2 ∨ month.length = 1 ∧ second ≠ .nothing)
    (allMonth : month.all Text.isFigure = true)
    (countDay : day.length = 2 ∨ day.length = 1)
    (allDay : day.all Text.isFigure = true)
    (stops : StopsFigures rest) :
    dateAt? (year ++ (first.text ++ (month ++ (second.text ++ (day ++ rest))))) =
      some ⟨year, some month, some day, none, none⟩ := by
  have monthGiven : month ≠ [] := by
    rintro rfl
    simp at countMonth
  have dayGiven : day ≠ [] := by
    rintro rfl
    simp at countDay
  have monthFound : fewFigures? (month ++ (second.text ++ (day ++ rest))) =
      some (month, second.text ++ (day ++ rest)) :=
    fewFigures?_append (countMonth.imp_right fun one => ⟨one.1, Joint.stopsFigures one.2 _⟩) allMonth
  have dayFound : fewFigures? (day ++ rest) = some (day, rest) :=
    fewFigures?_append (countDay.imp_right fun one => ⟨one, stops⟩) allDay
  simp only [dateAt?, fourFigures?_append fourYear allYear,
    skipJoint_append first (opensWithFigure_append monthGiven allMonth _), monthFound,
    skipJoint_append second (opensWithFigure_append dayGiven allDay rest), dayFound,
    Option.map_some]

theorem dateAt?_month
    {month : Text}
    (joint : Joint)
    (two : month.length = 2)
    (allMonth : month.all Text.isFigure = true) :
    dateAt? (year ++ (joint.text ++ month)) = some ⟨year, some month, none, none, none⟩ := by
  have monthGiven : month ≠ [] := by
    rintro rfl
    simp at two
  have opens := opensWithFigure_append monthGiven allMonth []
  have monthFound : fewFigures? (month ++ []) = some (month, []) :=
    fewFigures?_append (.inl two) allMonth
  rw [List.append_nil] at opens monthFound
  simp only [dateAt?, fourFigures?_append fourYear allYear, skipJoint_append joint opens, monthFound]
  rfl

theorem dateAt?_year : dateAt? year = some ⟨year, none, none, none, none⟩ := by
  have found := fourFigures?_append fourYear allYear []
  rw [List.append_nil] at found
  rw [dateAt?, found]
  rfl

theorem weekAt?_append
    {week : Text}
    (two : week.length = 2)
    (allWeek : week.all Text.isFigure = true) :
    weekAt? (year ++ ('-' :: 'W' :: week)) = some ⟨year, none, none, some week, none⟩ := by
  have skipped : skipJoint ('-' :: 'W' :: week) = 'W' :: week := rfl
  have weekFound : fewFigures? (week ++ []) = some (week, []) :=
    fewFigures?_append (.inl two) allWeek
  rw [List.append_nil] at weekFound
  simp only [weekAt?, fourFigures?_append fourYear allYear, skipped, weekFound, Option.map_some]

theorem quarterAt?_append
    {figure : Char}
    (isFigure : Text.isFigure figure = true)
    (rest : Text) :
    quarterAt? (year ++ ('-' :: 'Q' :: figure :: rest)) =
      some ⟨year, none, none, none, some [figure]⟩ := by
  have skipped : skipJoint ('-' :: 'Q' :: figure :: rest) = 'Q' :: figure :: rest := rfl
  simp only [quarterAt?, fourFigures?_append fourYear allYear, skipped, if_pos isFigure]

end AfterYear

theorem week_mem_of_weekAt?
    {text : Text}
    {figures : DateFigures}
    (found : weekAt? text = some figures) :
    'W' ∈ text := by
  unfold weekAt? at found
  split at found
  · rename_i year afterYear opens
    split at found
    · rename_i rest skipped
      apply (suffix_of_fourFigures? opens).subset
      apply (suffix_skipJoint afterYear).subset
      rw [skipped]
      exact List.mem_cons_self
    · cases found
  · cases found

theorem quarter_mem_of_quarterAt?
    {text : Text}
    {figures : DateFigures}
    (found : quarterAt? text = some figures) :
    'Q' ∈ text := by
  unfold quarterAt? at found
  split at found
  · rename_i year afterYear opens
    split at found
    · rename_i figure rest skipped
      apply (suffix_of_fourFigures? opens).subset
      apply (suffix_skipJoint afterYear).subset
      rw [skipped]
      exact List.mem_cons_self
    · cases found
  · cases found

/-! ### The search for a form -/

theorem leftmost?_of_some
    {form : Text → Option DateFigures}
    {text : Text}
    {figures : DateFigures}
    (found : form text = some figures) :
    leftmost? form text = some figures := by
  cases text with
  | nil => exact found
  | cons c rest => rw [leftmost?, found]

/-- A form that needs a letter is not found in a text without it. -/
theorem leftmost?_eq_none
    {form : Text → Option DateFigures}
    {letter : Char}
    (needs : ∀ {text figures}, form text = some figures → letter ∈ text)
    {text : Text}
    (absent : letter ∉ text) :
    leftmost? form text = none := by
  have notHere : ∀ {text}, letter ∉ text → form text = none := by
    intro text absent
    cases found : form text with
    | none => rfl
    | some figures => exact absurd (needs found) absent
  induction text with
  | nil => exact notHere absent
  | cons c rest inductionHypothesis =>
    rw [leftmost?, notHere absent]
    exact inductionHypothesis fun member => absent (List.mem_cons_of_mem c member)

theorem dateAt?_eq_none
    {c : Char}
    (noFigure : Text.isFigure c = false)
    (rest : Text) :
    dateAt? (c :: rest) = none := by
  rw [dateAt?, fourFigures?_eq_none noFigure]

/-- The search for a form that begins with a figure passes over a text without figures. -/
theorem leftmost?_append_of_noFigure
    {form : Text → Option DateFigures}
    (opens : ∀ c rest, Text.isFigure c = false → form (c :: rest) = none)
    {front : Text}
    (noFigure : ∀ c ∈ front, Text.isFigure c = false)
    (text : Text) :
    leftmost? form (front ++ text) = leftmost? form text := by
  induction front with
  | nil => rfl
  | cons c rest inductionHypothesis =>
    rw [List.cons_append, leftmost?, opens c _ (noFigure c List.mem_cons_self)]
    apply inductionHypothesis
    intro other member
    exact noFigure other (List.mem_cons_of_mem c member)

theorem shown?_of_weekAt?
    {text : Text}
    {figures : DateFigures}
    (found : weekAt? text = some figures) :
    shown? text = some figures := by
  rw [shown?, dateForms, List.findSome?_cons, leftmost?_of_some found]

theorem shown?_of_quarterAt?
    {text : Text}
    {figures : DateFigures}
    (noWeek : 'W' ∉ text)
    (found : quarterAt? text = some figures) :
    shown? text = some figures := by
  rw [shown?, dateForms, List.findSome?_cons, leftmost?_eq_none week_mem_of_weekAt? noWeek,
    List.findSome?_cons, leftmost?_of_some found]

/-- A date is found where neither a week nor a quarter can be. -/
theorem shown?_of_leftmost?_dateAt?
    {text : Text}
    {figures : DateFigures}
    (noWeek : 'W' ∉ text)
    (noQuarter : 'Q' ∉ text)
    (found : leftmost? dateAt? text = some figures) :
    shown? text = some figures := by
  rw [shown?, dateForms, List.findSome?_cons, leftmost?_eq_none week_mem_of_weekAt? noWeek,
    List.findSome?_cons, leftmost?_eq_none quarter_mem_of_quarterAt? noQuarter,
    List.findSome?_cons, found]

end Daybook.Path
