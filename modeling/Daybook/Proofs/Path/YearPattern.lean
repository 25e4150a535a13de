import Daybook.Proofs.Path.Shown
import Daybook.Proofs.Path.RoundTrip

/-!
Contract: patterns whose paths always show the year of their date.

Owns:
- rows with a year in which numbers stand apart and nothing else holds a figure;
- the reading of such a row, which is well formed;
- texts in which only the year has four figures in a row, and the text of such a row among them;
- the year that a path in such a pattern shows.

Does not own: the other parts of the date that the path shows, which may belong to another one.
-/

namespace Daybook

open Pattern

namespace Pattern

/-! ### Rows with a year -/

namespace Symbol

/-- Whether a token stands for a number, and not for the name of a month. -/
def isNumber : Symbol → Bool
  | .field .monthName => false
  | _ => true

/-- Whether a token stands for the month, by its name or by its number. -/
def isMonth : Symbol → Bool
  | .field .monthName | .field .paddedMonth | .field .month => true
  | _ => false

theorem letter_ne_of_apart
    {first second : Symbol}
    (numbersApart : ¬ (first.isNumber = true ∧ second.isNumber = true))
    (monthsApart : ¬ (first.isMonth = true ∧ second.isMonth = true)) :
    first.letter ≠ second.letter := by
  rcases first with (_ | _ | _ | _ | _ | _) | _ | _ <;>
    rcases second with (_ | _ | _ | _ | _ | _) | _ | _ <;>
      simp_all [isNumber, isMonth, letter, Field.letter]

end Symbol

namespace Segment

def isNumber : Segment → Bool
  | .symbol found => found.isNumber
  | .literal _ | .plain _ => false

def isMonth : Segment → Bool
  | .symbol found => found.isMonth
  | .literal _ | .plain _ => false

/-- A literal or plain text without figures, in which no token can be read. -/
def IsWordy : Segment → Prop
  | .symbol _ => True
  | .literal inner =>
    '[' ∉ inner ∧ ']' ∉ inner ∧ ¬ ['W', 'W'] <:+: inner ∧
      ∀ c ∈ inner, c ∉ fieldLetters ∧ Text.isFigure c = false
  | .plain text =>
    text ≠ [] ∧ ∀ c ∈ text, c ∉ reserved ∧ c ≠ solarMark ∧ Text.isFigure c = false

instance : (segment : Segment) → Decidable segment.IsWordy
  | .symbol _ => inferInstanceAs (Decidable True)
  | .literal inner =>
    inferInstanceAs (Decidable ('[' ∉ inner ∧ ']' ∉ inner ∧ ¬ ['W', 'W'] <:+: inner ∧
      ∀ c ∈ inner, c ∉ fieldLetters ∧ Text.isFigure c = false))
  | .plain text =>
    inferInstanceAs (Decidable (text ≠ [] ∧
      ∀ c ∈ text, c ∉ reserved ∧ c ≠ solarMark ∧ Text.isFigure c = false))

theorem IsWordy.isSound
    {segment : Segment}
    (wordy : segment.IsWordy)
    (system : CalendarSystem) :
    segment.IsSound system := by
  cases segment with
  | symbol found => trivial
  | literal inner =>
    obtain ⟨noOpening, noClosing, noWeek, others⟩ := wordy
    exact ⟨noOpening, noClosing, noWeek, fun _ c member => (others c member).1⟩
  | plain text => exact ⟨wordy.1, fun c member => (wordy.2 c member).1⟩

/-- Whether two neighbours are not both numbers. -/
def NumbersApart (first second : Segment) : Prop :=
  ¬ (first.isNumber = true ∧ second.isNumber = true)

/-- Whether two neighbours are not both tokens of the month. -/
def MonthsApart (first second : Segment) : Prop :=
  ¬ (first.isMonth = true ∧ second.isMonth = true)

instance (first second : Segment) : Decidable (first.NumbersApart second) :=
  inferInstanceAs (Decidable (¬ _))

instance (first second : Segment) : Decidable (first.MonthsApart second) :=
  inferInstanceAs (Decidable (¬ _))

end Segment

namespace Layout

/-- The segments of a row that always show something. -/
def visible (layout : Layout) : Layout :=
  layout.filter (· ≠ .literal [])

/-- A row with a year, in which something that is no number stands between any two numbers. -/
structure KeepsYear (layout : Layout) : Prop where
  wordy : ∀ segment ∈ layout, segment.IsWordy
  numbersApart : layout.visible.IsChain Segment.NumbersApart
  monthsApart : layout.IsChain Segment.MonthsApart
  year : .symbol (.field .year) ∈ layout

instance (layout : Layout) : Decidable layout.KeepsYear :=
  decidable_of_iff
    ((∀ segment ∈ layout, segment.IsWordy) ∧ layout.visible.IsChain Segment.NumbersApart ∧
      layout.IsChain Segment.MonthsApart ∧ .symbol (.field .year) ∈ layout)
    ⟨fun all => ⟨all.1, all.2.1, all.2.2.1, all.2.2.2⟩,
      fun keeps => ⟨keeps.wordy, keeps.numbersApart, keeps.monthsApart, keeps.year⟩⟩

theorem visible_cons (segment : Segment) (rest : Layout) :
    visible (segment :: rest) =
      if segment = .literal [] then visible rest else segment :: visible rest := by
  by_cases empty : segment = .literal []
  · simp [visible, empty]
  · simp [visible, empty]

theorem isChain_visible_tail
    {segment : Segment}
    {rest : Layout}
    (apart : (visible (segment :: rest)).IsChain Segment.NumbersApart) :
    (visible rest).IsChain Segment.NumbersApart := by
  rw [visible_cons] at apart
  split at apart
  · exact apart
  · exact apart.tail

/-- A row that keeps the year can be read in one way only. -/
theorem isChain_mayPrecede
    (system : CalendarSystem)
    {layout : Layout}
    (wordy : ∀ segment ∈ layout, segment.IsWordy)
    (numbersApart : layout.visible.IsChain Segment.NumbersApart)
    (monthsApart : layout.IsChain Segment.MonthsApart) :
    layout.IsChain (Segment.MayPrecede system) := by
  induction layout with
  | nil => exact .nil
  | cons segment rest inductionHypothesis =>
    have laterWordy : ∀ other ∈ rest, other.IsWordy :=
      fun other member => wordy other (List.mem_cons_of_mem segment member)
    have later := inductionHypothesis laterWordy (isChain_visible_tail numbersApart)
      monthsApart.tail
    refine later.cons ?_
    intro next head
    cases rest with
    | nil => cases head
    | cons second more =>
      cases head
      cases segment with
      | literal inner => cases next <;> trivial
      | plain text =>
        have unmarked := wordy (.plain text) List.mem_cons_self
        cases next with
        | literal inner => trivial
        | plain other => trivial
        | symbol found =>
          cases found with
          | week => trivial
          | quarter => trivial
          | field found =>
            intro _ marked
            exact (unmarked.2 solarMark (List.mem_of_getLast? marked)).2.1 rfl
      | symbol first =>
        cases next with
        | literal inner => trivial
        | plain text => trivial
        | symbol second =>
          have numbers : Segment.NumbersApart (.symbol first) (.symbol second) := by
            simp only [visible_cons, reduceCtorEq, if_false] at numbersApart
            exact numbersApart.rel
          exact Symbol.letter_ne_of_apart numbers monthsApart.rel

theorem KeepsYear.wellFormed
    {layout : Layout}
    (keeps : layout.KeepsYear)
    (system : CalendarSystem) :
    layout.WellFormed system where
  sound := fun segment member => (keeps.wordy segment member).isSound system
  neighbours := isChain_mayPrecede system keeps.wordy keeps.numbersApart keeps.monthsApart

theorem KeepsYear.notBlank
    {layout : Layout}
    (keeps : layout.KeepsYear) :
    Text.isBlankText layout.source = false := by
  have shown : 'Y' ∈ layout.source :=
    List.mem_flatMap.2 ⟨_, keeps.year, by decide⟩
  rw [Text.isBlankText, List.all_eq_false]
  exact ⟨'Y', shown, by decide⟩

end Layout

end Pattern

/-! ### Texts in which only the year has four figures -/

namespace Path

/-- Whether four figures in a row spell the year wherever they stand in a text, and all its figures
have values. -/
def SpellsYear (year : Nat) (text : Text) : Prop :=
  ∀ run, IsRunIn text run →
    run.all Text.isDigit = true ∧ (run.length = 4 → Text.digitsValue run = year)

theorem SpellsYear.of_infix
    {year : Nat}
    {part text : Text}
    (spells : SpellsYear year text)
    (inside : part <:+: text) :
    SpellsYear year part :=
  fun run isRun => spells run (isRun.mono inside)

theorem spellsYear_nil (year : Nat) : SpellsYear year [] := by
  intro run isRun
  rw [List.infix_nil.1 isRun.1]
  simp

/-- Figures among characters that are none. -/
theorem eq_nil_of_noFigure
    {front run : Text}
    (noFigure : ∀ c ∈ front, Text.isFigure c = false)
    (inside : run ⊆ front)
    (figures : run.all Text.isFigure = true) :
    run = [] := by
  apply List.eq_nil_iff_forall_not_mem.2
  intro c member
  have figure := List.all_eq_true.1 figures c member
  rw [noFigure c (inside member)] at figure
  cases figure

/-- A run of figures does not reach over a text without figures. -/
theorem IsRunIn.of_append_noFigure
    {front text run : Text}
    (noFigure : ∀ c ∈ front, Text.isFigure c = false)
    (isRun : IsRunIn (front ++ text) run) :
    IsRunIn text run := by
  obtain ⟨inside, figures⟩ := isRun
  rcases List.infix_append_iff.1 inside with inFront | inText | ⟨first, second, rfl, ends, opens⟩
  · rw [eq_nil_of_noFigure noFigure inFront.subset figures]
    exact ⟨List.nil_infix, rfl⟩
  · exact ⟨inText, figures⟩
  · rw [List.all_append, Bool.and_eq_true] at figures
    rw [eq_nil_of_noFigure noFigure ends.subset figures.1]
    exact ⟨opens.isInfix, figures.2⟩

/-- A run of figures ends where a number ends that no figure follows. -/
theorem IsRunIn.of_append_number
    {number text run : Text}
    (stops : StopsFigures text)
    (isRun : IsRunIn (number ++ text) run) :
    IsRunIn number run ∨ IsRunIn text run := by
  obtain ⟨inside, figures⟩ := isRun
  rcases List.infix_append_iff.1 inside with inNumber | inText | ⟨first, second, rfl, ends, opens⟩
  · exact .inl ⟨inNumber, figures⟩
  · exact .inr ⟨inText, figures⟩
  cases second with
  | nil =>
    rw [List.append_nil] at figures ⊢
    exact .inl ⟨ends.isInfix, figures⟩
  | cons c second =>
    -- the run would reach over the end of the number
    obtain ⟨back, rfl⟩ := opens
    have figure : Text.isFigure c = true := List.all_eq_true.1 figures c (by simp)
    rw [stops c rfl] at figure
    cases figure

theorem SpellsYear.append_noFigure
    {year : Nat}
    {front text : Text}
    (noFigure : ∀ c ∈ front, Text.isFigure c = false)
    (spells : SpellsYear year text) :
    SpellsYear year (front ++ text) :=
  fun run isRun => spells run (isRun.of_append_noFigure noFigure)

theorem SpellsYear.append_number
    {year : Nat}
    {number text : Text}
    (digits : number.all Text.isDigit = true)
    (isYear : number.length < 4 ∨ number.length = 4 ∧ Text.digitsValue number = year)
    (stops : StopsFigures text)
    (spells : SpellsYear year text) :
    SpellsYear year (number ++ text) := by
  intro run isRun
  rcases isRun.of_append_number stops with inNumber | inText
  · refine ⟨?_, ?_⟩
    · apply List.all_eq_true.2
      intro c member
      exact List.all_eq_true.1 digits c (inNumber.1.subset member)
    · intro four
      have fits := inNumber.1.length_le
      rcases isYear with short | ⟨fourInNumber, valued⟩
      · omega
      · rwa [inNumber.1.eq_of_length (four.trans fourInNumber.symm)]
  · exact spells run inText

end Path

/-! ### The text of a row with a year -/

namespace Date

theorem mem_monthNames
    {locale : Locale}
    {date : Date}
    {name : Text}
    (named : date.monthName locale = .ok name) :
    name ∈ gregorianMonthNames ∨ name ∈ locale.monthNames := by
  obtain ⟨fields, found, same⟩ := Attempt.bind_eq_ok_iff.1 named
  obtain ⟨-, ⟨firstMonth, lastMonth⟩, -⟩ := (hasDate_fields found).bounds
  have inYear : fields.month - 1 < 12 := by omega
  have listed : ∀ names : List Text, names.length = 12 →
      names.getD (fields.month - 1) [] ∈ names := by
    intro names twelve
    rw [List.getD_eq_getElem?_getD, List.getElem?_eq_getElem (by omega), Option.getD_some]
    exact List.getElem_mem _
  cases same
  cases date.system with
  | gregorian => exact .inl (listed gregorianMonthNames rfl)
  | solar =>
    refine .inr (listed locale.monthNames ?_)
    cases dialect : locale.dialect <;> simp [Locale.monthNames, dialect]

/-- The name of a month is not empty and holds no figure. -/
theorem monthName_noFigure
    {locale : Locale}
    {date : Date}
    {name : Text}
    (named : date.monthName locale = .ok name) :
    name ≠ [] ∧ ∀ c ∈ name, Text.isFigure c = false := by
  have gregorian : ∀ listed ∈ gregorianMonthNames,
      listed ≠ [] ∧ ∀ c ∈ listed, Text.isFigure c = false := by
    decide
  have solar : ∀ listed ∈ locale.monthNames,
      listed ≠ [] ∧ ∀ c ∈ listed, Text.isFigure c = false := by
    unfold Locale.monthNames
    cases locale.dialect <;> decide
  rcases mem_monthNames named with listed | listed
  · exact gregorian name listed
  · exact solar name listed

end Date

namespace Pattern

section Written

variable
  {locale : Locale}
  {date : Date}
  {fields : DateFields}
  {quarter : Option Int}

theorem Segment.noFigure_of_isNumber_eq_false
    {segment : Segment}
    (wordy : segment.IsWordy)
    (noNumber : segment.isNumber = false)
    (given : segment ≠ .literal [])
    {shown : Text}
    (written : segment.text locale date quarter = .ok shown) :
    shown ≠ [] ∧ ∀ c ∈ shown, Text.isFigure c = false := by
  cases segment with
  | literal inner =>
    cases written
    refine ⟨?_, fun c member => (wordy.2.2.2 c member).2⟩
    rintro rfl
    exact given rfl
  | plain text =>
    cases written
    exact ⟨wordy.1, fun c member => (wordy.2 c member).2.2⟩
  | symbol found =>
    rcases found with (_ | _ | _ | _ | _ | _) | _ | _
    case field.monthName => exact Date.monthName_noFigure written
    all_goals cases noNumber

/-- A number in a row is shorter than a year, or it is the year. -/
theorem Symbol.digits_of_isNumber
    (found : date.fields = .ok fields)
    (isQuarter : ∀ given ∈ quarter, 0 ≤ given ∧ given ≤ 9)
    {symbol : Symbol}
    (isNumber : symbol.isNumber = true)
    {shown : Text}
    (written : symbol.text locale date quarter = .ok shown) :
    shown.all Text.isDigit = true ∧
      (shown.length < 4 ∨ shown.length = 4 ∧ Text.digitsValue shown = fields.year) := by
  obtain ⟨-, ⟨firstMonth, lastMonth⟩, ⟨firstDay, lastDay⟩⟩ :=
    (Date.hasDate_fields found).bounds
  have padded : ∀ n < 100, (date.digits locale (Text.padded 2 n)).all Text.isDigit = true ∧
      (date.digits locale (Text.padded 2 n)).length < 4 := by
    intro n small
    refine ⟨(Date.spells_digits_padded locale date 2 n).1, ?_⟩
    rw [Date.length_digits_padded locale date (by decide) small]
    decide
  have plain : ∀ n < 100, (date.digits locale (Text.ofNat n)).all Text.isDigit = true ∧
      (date.digits locale (Text.ofNat n)).length < 4 := by
    intro n small
    refine ⟨(Date.spells_digits locale date (Text.spells_ofNat n)).1, ?_⟩
    have short := Text.length_ofNat small
    rw [Date.length_digits]
    omega
  rcases symbol with (_ | _ | _ | _ | _ | _) | _ | _
  case field.year =>
    rw [Symbol.text, found] at written
    cases written
    have isYear := Date.spells_digits_padded locale date 4 fields.year
    have four := Path.length_digits_year locale date (Date.year_le found)
    exact ⟨isYear.1, .inr ⟨four, isYear.2⟩⟩
  case field.monthName => cases isNumber
  case field.paddedMonth =>
    rw [Symbol.text, found] at written
    cases written
    exact (padded fields.month (by omega)).imp_right .inl
  case field.month =>
    rw [Symbol.text, found] at written
    cases written
    exact (plain fields.month (by omega)).imp_right .inl
  case field.paddedDay =>
    rw [Symbol.text, found] at written
    cases written
    exact (padded fields.day (by omega)).imp_right .inl
  case field.day =>
    rw [Symbol.text, found] at written
    cases written
    exact (plain fields.day (by omega)).imp_right .inl
  case week =>
    obtain ⟨week, weekFound, same⟩ := Attempt.bind_eq_ok_iff.1 written
    cases same
    have lastWeek := Date.week_le weekFound
    exact (padded week (by omega)).imp_right .inl
  case quarter =>
    cases quarter with
    | none =>
      rw [Symbol.text, found] at written
      cases written
      exact (plain ((fields.month - 1) / 3 + 1) (by omega)).imp_right .inl
    | some given =>
      cases written
      obtain ⟨positive, oneDigit⟩ := isQuarter given rfl
      obtain ⟨n, rfl⟩ := Int.eq_ofNat_of_zero_le positive
      have short := Text.length_ofNat (show n < 100 by omega)
      exact ⟨(Text.spells_ofNat n).1, .inl (by show (Text.ofNat n).length < 4; omega)⟩

/-- What stands in front of a number that no other one follows. -/
theorem Layout.spellsYear_text
    (found : date.fields = .ok fields)
    (isQuarter : ∀ given ∈ quarter, 0 ≤ given ∧ given ≤ 9)
    {layout : Layout}
    (wordy : ∀ segment ∈ layout, segment.IsWordy)
    (numbersApart : layout.visible.IsChain Segment.NumbersApart)
    {shown : Text}
    (written : layout.text locale date quarter = .ok shown) :
    Path.SpellsYear fields.year shown ∧
      ((∀ first ∈ layout.visible.head?, first.isNumber = false) → Path.StopsFigures shown) := by
  induction layout generalizing shown with
  | nil =>
    cases written
    refine ⟨Path.spellsYear_nil fields.year, ?_⟩
    rintro - c ⟨⟩
  | cons segment rest inductionHypothesis =>
    obtain ⟨first, following, here, later, rfl⟩ := Layout.text_cons_eq_ok_iff.1 written
    have laterWordy : ∀ other ∈ rest, other.IsWordy :=
      fun other member => wordy other (List.mem_cons_of_mem segment member)
    obtain ⟨spells, stops⟩ :=
      inductionHypothesis laterWordy (isChain_visible_tail numbersApart) later
    by_cases empty : segment = .literal []
    · subst empty
      cases here
      rw [visible_cons, if_pos rfl]
      exact ⟨spells, stops⟩
    rw [visible_cons, if_neg empty] at numbersApart ⊢
    cases isNumber : segment.isNumber with
    | false =>
      obtain ⟨given, noFigure⟩ := Segment.noFigure_of_isNumber_eq_false
        (wordy segment List.mem_cons_self) isNumber empty here
      refine ⟨spells.append_noFigure noFigure, ?_⟩
      intro _ c head
      rw [List.head?_append_of_ne_nil first given] at head
      exact noFigure c (List.mem_of_mem_head? head)
    | true =>
      refine ⟨?_, fun noNumber => ?_⟩
      · have stopsHere : Path.StopsFigures following := by
          apply stops
          intro next head
          have apart := (List.isChain_cons.1 numbersApart).1 next head
          simpa [Segment.NumbersApart, isNumber] using apart
        cases segment with
        | literal inner => cases isNumber
        | plain text => cases isNumber
        | symbol symbol =>
          obtain ⟨digits, isYear⟩ := Symbol.digits_of_isNumber found isQuarter isNumber here
          exact spells.append_number digits isYear stopsHere
      · rw [noNumber segment rfl] at isNumber
        cases isNumber

/-- The text of a segment stands in the text of its row. -/
theorem Layout.exists_infix_of_mem
    {layout : Layout}
    {segment : Segment}
    (member : segment ∈ layout)
    {shown : Text}
    (written : layout.text locale date quarter = .ok shown) :
    ∃ part, segment.text locale date quarter = .ok part ∧ part <:+: shown := by
  induction layout generalizing shown with
  | nil => exact absurd member List.not_mem_nil
  | cons other rest inductionHypothesis =>
    obtain ⟨first, following, here, later, rfl⟩ := Layout.text_cons_eq_ok_iff.1 written
    rcases List.mem_cons.1 member with rfl | inRest
    · exact ⟨first, here, (List.prefix_append first following).isInfix⟩
    · obtain ⟨part, partWritten, inside⟩ := inductionHypothesis inRest later
      exact ⟨part, partWritten, inside.trans (List.suffix_append first following).isInfix⟩

end Written

end Pattern

/-! ### The year of a path -/

namespace Path

/-- A text around a year shows that year, whatever else it shows. -/
theorem exists_recover?_of_spellsYear
    {year : Nat}
    {text run : Text}
    (spells : SpellsYear year text)
    (isRun : IsRunIn text run)
    (four : run.length = 4) :
    ∃ parts, recover? text = .ok (some parts) ∧ parts.year = year := by
  obtain ⟨figures, shown⟩ := exists_shown? isRun four
  have stand := standIn_of_shown? shown
  have valued : figures.HaveValues := fun other member => (spells other (stand.runs other member)).1
  obtain ⟨parts, read, isYear⟩ := DateFigures.exists_parts valued
  have yearShown := (spells figures.year (stand.runs _ List.mem_cons_self)).2 stand.four
  refine ⟨parts, recover?_of_shown? shown read, ?_⟩
  rw [isYear, yearShown]

/-- Taking a path apart leaves the year in it. -/
theorem exists_dateOf?_assemble_of_spellsYear
    (base : Text)
    {year : Nat}
    {text run : Text}
    (spells : SpellsYear year text)
    (isRun : IsRunIn text run)
    (four : run.length = 4) :
    ∃ parts, dateOf? base (assemble base text) = .ok (some parts) ∧ parts.year = year := by
  obtain ⟨⟨front, back, whole⟩, figures⟩ := isRun
  have given : run ≠ [] := by
    rintro rfl
    cases four
  have opens : run.head? ≠ some '/' := by
    have opening := opensWithFigure_append given figures []
    rw [List.append_nil] at opening
    exact opening.head?_ne
  obtain ⟨last, isLast, figure⟩ := endsWithFigure_append [] given figures
  rw [List.nil_append] at isLast
  obtain ⟨before, after, ⟨droppedBefore, isFront⟩, ⟨droppedAfter, isBack⟩, inside⟩ :=
    insideBase?_assemble_around base front back opens isLast (not_mem_extension figure)
  rw [← List.append_assoc, whole] at inside
  have part : before ++ (run ++ after) <:+: text := by
    refine ⟨droppedBefore, droppedAfter, ?_⟩
    rw [← whole, ← isFront, ← isBack]
    simp only [List.append_assoc]
  rw [dateOf?, inside]
  have inPart : IsRunIn (before ++ (run ++ after)) run := ⟨⟨before, after, by simp⟩, figures⟩
  exact exists_recover?_of_spellsYear (spells.of_infix part) inPart four

/-- In a pattern with a year, in which numbers stand apart and nothing else holds a figure, the path
of a note shows the year of its date, however often the parts of the date are repeated. -/
theorem exists_dateOf?_of_keepsYear
    {system : CalendarSystem}
    {calendar : Option Calendar}
    (standsFor : Calendar.StandsFor system calendar)
    {layout : Layout}
    (keepsYear : layout.KeepsYear)
    (base : Text)
    {parts : DateParts}
    (isQuarter : ∀ given ∈ parts.quarter, 0 ≤ given ∧ given ≤ 9)
    {surroundings : Surroundings}
    {file : Text}
    (written :
      (notePath system calendar base (some layout.source) parts).answer surroundings = .ok file) :
    ∃ date fields found,
      ((calendar.getD (.ofSystem system none)).moment parts).answer surroundings =
          .ok (.date date) ∧
        date.system = system ∧
        date.fields = .ok fields ∧
        dateOf? base file = .ok (some found) ∧
        found.year = fields.year := by
  obtain ⟨-, date, shown, built, shownOf, rfl⟩ :=
    (notePath_source_eq_ok_iff standsFor (keepsYear.wellFormed system) keepsYear.notBlank
      base parts surroundings file).1 written
  obtain ⟨run, runWritten, inside⟩ := Layout.exists_infix_of_mem keepsYear.year shownOf
  obtain ⟨fields, found, same⟩ := Attempt.bind_eq_ok_iff.1 runWritten
  cases same
  have four := length_digits_year surroundings.locale date (Date.year_le found)
  have figures := (Date.spells_digits_padded surroundings.locale date 4 fields.year).all_isFigure
  have spells := (Layout.spellsYear_text found isQuarter keepsYear.wordy keepsYear.numbersApart
    shownOf).1
  obtain ⟨recovered, read, isYear⟩ :=
    exists_dateOf?_assemble_of_spellsYear base spells ⟨inside, figures⟩ four
  refine ⟨date, fields, recovered, ?_, Date.system_ofDateParts built, found, read, isYear⟩
  obtain ⟨today, resolved, clock⟩ := standsFor.exists_ofSystem surroundings
  rw [resolved, Calendar.answer_moment, clock, built]
  rfl

set_option maxRecDepth 4096 in
/-- The year is shown twice, behind a week and a quarter that no form finds. -/
theorem exists_dateOf?_repeatedYear :
    ∃ date fields found,
      (((none : Option Calendar).getD (.ofSystem .solar none)).moment
          ⟨1403, some 12, some 30, none, some 4⟩).answer
            ⟨⟨739000, by decide, by decide⟩, ⟨true, .english⟩⟩ = .ok (.date date) ∧
        date.system = .solar ∧
        date.fields = .ok fields ∧
        dateOf? "notes".toList "notes/۵۳W/4Esfand۱۴۰۳/۱۴۰۳.md".toList = .ok (some found) ∧
        found.year = fields.year := by
  have keepsYear : Layout.KeepsYear
      [.symbol .week, .literal ['W'], .plain ['/'], .symbol .quarter, .symbol (.field .monthName),
        .symbol (.field .year), .plain ['/'], .symbol (.field .year)] := by
    decide
  apply exists_dateOf?_of_keepsYear (Calendar.standsFor_none .solar) keepsYear
  · decide
  · rw [notePath_source_eq_ok_iff (Calendar.standsFor_none .solar) (keepsYear.wellFormed .solar)
      keepsYear.notBlank]
    exact ⟨by decide, ⟨.solar, ⟨739330, by decide, by decide⟩⟩, "۵۳W/4Esfand۱۴۰۳/۱۴۰۳".toList,
      by rfl, by rfl, by rfl⟩

end Path

end Daybook
