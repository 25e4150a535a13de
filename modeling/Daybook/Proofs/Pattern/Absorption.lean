import Daybook.Proofs.Pattern.RunByRun
import Daybook.Proofs.Pattern.SolarFields

/-!
Contract: what becomes of a pattern that is prepared once more, or in another order.

Owns:
- the steps of the preparation in another order, and twice;
- the preparation of a prepared pattern, for the same calendar or for the other one;
- the marking steps of the solar calendar in any order.

Does not own: what a single step does, or how a prepared pattern is read.
-/

namespace Daybook.Pattern

/-! ### Single characters -/

theorem head?_ne_of_single
    {rest : Text}
    (single : ∀ later, 'W' = 'W' → rest = 'W' :: later → False) :
    rest.head? ≠ some 'W' := by
  intro pair
  cases rest with
  | nil => cases pair
  | cons c later =>
    cases pair
    exact single later rfl rfl

/-- A week letter without another one behind it stays, and so does everything else. -/
theorem lowerWeeks_single
    {c : Char}
    {rest : Text}
    (alone : c = 'W' → rest.head? ≠ some 'W') :
    lowerWeeks (c :: rest) = c :: lowerWeeks rest := by
  rw [lowerWeeks]
  rintro later rfl rfl
  exact alone rfl rfl

/-! ### Marking behind the other steps -/

/-- Whether only the letters of fields are chosen. -/
def ChoosesFields (chosen : Char → Nat → Bool) : Prop :=
  ∀ c, c ∉ fieldLetters → ∀ size, chosen c size = false

theorem choosesFields_marksRun (system : CalendarSystem) : ChoosesFields (marksRun system) := by
  intro c other size
  simp [marksRun, isSolarRun_of_not_mem other]

theorem isFieldMarkup_of_mem {c : Char} (isField : c ∈ fieldLetters) : isFieldMarkup c = true := by
  simp [isFieldMarkup, isField]

section Marking

variable {chosen : Char → Nat → Bool} (onlyFields : ChoosesFields chosen)

include onlyFields

/-- A pass looks at the character before a text only for a mark or the letter of a field. -/
theorem SameMarkup.markRunsAfter_eq
    {first second : Option Char}
    (alike : SameMarkup first second)
    (text : Text) :
    markRunsAfter chosen first text = markRunsAfter chosen second text := by
  cases text with
  | nil => rfl
  | cons c rest =>
    have sameChoice :
        (opensRun c first && chosen c (runLength c (c :: rest))) =
          (opensRun c second && chosen c (runLength c (c :: rest))) := by
      by_cases isField : c ∈ fieldLetters
      · have sameMark := alike.eq_some_iff (c := solarMark) rfl
        have sameLetter := alike.eq_some_iff (isFieldMarkup_of_mem isField)
        simp only [opensRun, bne, beq_eq_decide, sameMark, sameLetter]
      · rw [onlyFields c isField, Bool.and_false, Bool.and_false]
    rw [markRunsAfter, markRunsAfter, sameChoice]

/-- A run is chosen whatever becomes of the text behind it that is not looked at. -/
theorem Respelled.chosen_eq
    {text other : Text}
    (respelled : Respelled isFieldMarkup text other)
    (c : Char) :
    chosen c (runLength c (c :: text)) = chosen c (runLength c (c :: other)) := by
  by_cases isField : c ∈ fieldLetters
  · rw [runLength_cons_self, runLength_cons_self,
      respelled.runLength_eq (isFieldMarkup_of_mem isField)]
  · rw [onlyFields c isField, onlyFields c isField]

/-- Weeks can be written small before a text is marked, or after it. -/
theorem markRunsAfter_lowerWeeks
    (before : Option Char)
    (text : Text) :
    markRunsAfter chosen before (lowerWeeks text) =
      lowerWeeks (markRunsAfter chosen before text) := by
  fun_induction lowerWeeks text generalizing before with
  | case1 rest inductionHypothesis =>
    have copies : ∀ c before rest, c ∉ fieldLetters →
        markRunsAfter chosen before (c :: rest) = c :: markRunsAfter chosen (some c) rest := by
      intro c before rest other
      exact markRunsAfter_copy (by rw [onlyFields c other, Bool.and_false])
    have alike : SameMarkup (some 'w') (some 'W') := rfl
    rw [copies 'w' before _ (by decide), copies 'w' _ _ (by decide), copies 'W' before _ (by decide),
      copies 'W' _ _ (by decide), alike.markRunsAfter_eq onlyFields, inductionHypothesis]
    rfl
  | case2 c rest single inductionHypothesis =>
    have alone : c = 'W' → (markRunsAfter chosen (some c) rest).head? ≠ some 'W' := by
      rintro rfl
      exact head?_markRunsAfter_ne chosen _ (by decide) (head?_ne_of_single single)
    rw [markRunsAfter, markRunsAfter, (respelled_lowerWeeks (by decide) rest).chosen_eq onlyFields,
      inductionHypothesis]
    split
    · rw [lowerWeeks_cons (by decide), lowerWeeks_single alone]
    · rw [lowerWeeks_single alone]
  | case3 => rfl

/-- A quarter can be put in before a text is marked, or after it. -/
theorem markRunsAfter_substituteQuarterAt
    {digits : Text}
    (nonempty : digits ≠ [])
    (unread : ∀ d ∈ digits, isFieldMarkup d = false)
    (depth : Nat)
    (before : Option Char)
    (text : Text) :
    markRunsAfter chosen before (substituteQuarterAt digits depth text) =
      substituteQuarterAt digits depth (markRunsAfter chosen before text) := by
  induction text generalizing depth before with
  | nil => rfl
  | cons c rest inductionHypothesis =>
    by_cases replaced : c = 'Q' ∧ depth = 0
    · obtain ⟨rfl, rfl⟩ := replaced
      have spared : ∀ d ∈ digits, ∀ size, chosen d size = false := fun d member =>
        onlyFields d (not_mem_fieldLetters_of_isFieldMarkup (unread d member)).1
      have alike : SameMarkup (digits.getLast?.or before) (some 'Q') := by
        have unreadLast := unread _ (List.getLast_mem nonempty)
        have unreadQuarter : isFieldMarkup 'Q' = false := rfl
        simp [SameMarkup, List.getLast?_eq_some_getLast nonempty, Option.filter, unreadLast,
          unreadQuarter]
      rw [markRunsAfter_copy (by rw [onlyFields 'Q' (by decide), Bool.and_false]),
        substituteQuarterAt_quarter, substituteQuarterAt_quarter,
        markRunsAfter_append chosen before _ spared, alike.markRunsAfter_eq onlyFields,
        inductionHypothesis]
    · have following := respelled_substituteQuarterAt rfl nonempty unread (depthBehind depth c) rest
      rw [substituteQuarterAt_cons replaced, markRunsAfter, markRunsAfter,
        following.chosen_eq onlyFields, inductionHypothesis]
      split
      · rw [substituteQuarterAt_plain (by decide), substituteQuarterAt_cons replaced]
      · rw [substituteQuarterAt_cons replaced]

end Marking

/-! ### Weeks -/

theorem head?_lowerWeeks_ne
    {text : Text}
    (other : text.head? ≠ some 'W') :
    (lowerWeeks text).head? ≠ some 'W' := by
  fun_cases lowerWeeks text with
  | case1 rest => simp at other
  | case2 c rest => exact other
  | case3 => exact other

theorem lowerWeeks_lowerWeeks (text : Text) : lowerWeeks (lowerWeeks text) = lowerWeeks text := by
  fun_induction lowerWeeks text with
  | case1 rest inductionHypothesis =>
    rw [lowerWeeks_cons (by decide), lowerWeeks_cons (by decide), inductionHypothesis]
  | case2 c rest single inductionHypothesis =>
    rw [lowerWeeks_single, inductionHypothesis]
    rintro rfl
    exact head?_lowerWeeks_ne (head?_ne_of_single single)
  | case3 => rfl

section Substitution

variable {digits : Text}

theorem head?_substituteQuarterAt_ne
    (nonempty : digits ≠ [])
    (noWeek : 'W' ∉ digits)
    (depth : Nat)
    {text : Text}
    (other : text.head? ≠ some 'W') :
    (substituteQuarterAt digits depth text).head? ≠ some 'W' := by
  cases text with
  | nil => exact other
  | cons c rest =>
    by_cases replaced : c = 'Q' ∧ depth = 0
    · obtain ⟨rfl, rfl⟩ := replaced
      obtain ⟨first, others, rfl⟩ := List.exists_cons_of_ne_nil nonempty
      rintro starts
      exact noWeek (Option.some.inj starts ▸ List.mem_cons_self)
    · rw [substituteQuarterAt_cons replaced]
      exact other

/-- A quarter can be put in before the weeks are written small, or after it. -/
theorem lowerWeeks_substituteQuarterAt
    (nonempty : digits ≠ [])
    (noWeek : 'W' ∉ digits)
    (depth : Nat)
    (text : Text) :
    lowerWeeks (substituteQuarterAt digits depth text) =
      substituteQuarterAt digits depth (lowerWeeks text) := by
  fun_induction lowerWeeks text generalizing depth with
  | case1 rest inductionHypothesis =>
    rw [substituteQuarterAt_plain (by decide), substituteQuarterAt_plain (by decide),
      substituteQuarterAt_plain (by decide), substituteQuarterAt_plain (by decide), lowerWeeks,
      inductionHypothesis]
  | case2 c rest single inductionHypothesis =>
    by_cases replaced : c = 'Q' ∧ depth = 0
    · obtain ⟨rfl, rfl⟩ := replaced
      rw [substituteQuarterAt_quarter, substituteQuarterAt_quarter, lowerWeeks_append noWeek,
        inductionHypothesis]
    · rw [substituteQuarterAt_cons replaced, substituteQuarterAt_cons replaced,
        lowerWeeks_single, inductionHypothesis]
      rintro rfl
      exact head?_substituteQuarterAt_ne nonempty noWeek _ (head?_ne_of_single single)
  | case3 => rfl

/-- A substitution leaves nothing for another one. -/
theorem substituteQuarterAt_substituteQuarterAt
    (flat : ∀ c ∈ digits, isQuarterMarkup c = false)
    (depth : Nat)
    (text : Text) :
    substituteQuarterAt digits depth (substituteQuarterAt digits depth text) =
      substituteQuarterAt digits depth text := by
  induction text generalizing depth with
  | nil => rfl
  | cons c rest inductionHypothesis =>
    by_cases replaced : c = 'Q' ∧ depth = 0
    · obtain ⟨rfl, rfl⟩ := replaced
      have plain : ∀ c ∈ digits, c ≠ '[' ∧ c ≠ ']' ∧ (c = 'Q' → 0 ≠ 0) := by
        intro c member
        have other := flat c member
        simp only [isQuarterMarkup, isBracket, Bool.or_eq_false_iff, beq_eq_false_iff_ne] at other
        exact ⟨other.1.1, other.1.2, fun same => absurd same other.2⟩
      rw [substituteQuarterAt_quarter, substituteQuarterAt_append digits 0 _ plain,
        inductionHypothesis]
    · rw [substituteQuarterAt_cons replaced, substituteQuarterAt_cons replaced,
        inductionHypothesis]

end Substitution

/-! ### The whole preparation -/

/-- Marking twice is marking once, for the solar calendar if that is one of the two. -/
theorem mark_mark
    (first second : CalendarSystem)
    (text : Text) :
    mark second (mark first text) =
      mark (if first = .solar ∨ second = .solar then .solar else .gregorian) text := by
  cases first with
  | gregorian => cases second <;> rfl
  | solar =>
    cases second with
    | gregorian => rfl
    | solar =>
      have spares : SparesMark isSolarRun := isSolarRun_of_not_mem (by decide)
      rw [mark_solar, mark_solar, markRuns_markRuns spares spares]
      simp only [Bool.or_self, true_or, if_true, mark_solar]

theorem prepare_none_prepare_none
    (first second : CalendarSystem)
    (pattern : Text) :
    prepare second none (prepare first none pattern) =
      prepare (if first = .solar ∨ second = .solar then .solar else .gregorian) none pattern := by
  have marksLast : mark second (lowerWeeks (mark first pattern)) =
      lowerWeeks (mark second (mark first pattern)) := by
    rw [mark_eq_markRunsAfter second, mark_eq_markRunsAfter second]
    exact markRunsAfter_lowerWeeks (choosesFields_marksRun second) none _
  calc prepare second none (prepare first none pattern)
      = lowerWeeks (mark second (lowerWeeks (mark first pattern))) := rfl
    _ = lowerWeeks (mark second (mark first pattern)) := by
        rw [marksLast, lowerWeeks_lowerWeeks]
    _ = prepare (if first = .solar ∨ second = .solar then .solar else .gregorian) none pattern := by
        rw [mark_mark, prepare_none]

/-- A quarter can be put in before the rest of the preparation, or after it. -/
theorem prepare_none_substituteQuarterAt
    (system : CalendarSystem)
    (quarter : Int)
    (pattern : Text) :
    prepare system none (substituteQuarterAt (Text.ofInt quarter) 0 pattern) =
      prepare system (some quarter) pattern := by
  have nonempty := Text.ofInt_ne_nil quarter
  have unread : ∀ d ∈ Text.ofInt quarter, isFieldMarkup d = false :=
    fun _ => isFieldMarkup_of_mem_ofInt
  have noWeek : 'W' ∉ Text.ofInt quarter := by
    intro member
    have unlisted : 'W' ∉ ['W'] := Text.not_mem_of_mem_ofInt (by decide) member
    exact unlisted List.mem_cons_self
  rw [prepare_some, prepare_none, prepare_none, mark_eq_markRunsAfter, mark_eq_markRunsAfter,
    markRunsAfter_substituteQuarterAt (choosesFields_marksRun system) nonempty unread,
    lowerWeeks_substituteQuarterAt nonempty noWeek]

/-- A prepared pattern that is prepared again, with the same quarter or without one, stays as it is
or gets the marks of the solar calendar: it is what a single preparation makes of it, for the solar
calendar if one of the two was for that. -/
theorem prepare_prepare
    (first second : CalendarSystem)
    (quarter : Option Int)
    (pattern : Text) :
    prepare second quarter (prepare first quarter pattern) =
      prepare (if first = .solar ∨ second = .solar then .solar else .gregorian) quarter
        pattern := by
  cases quarter with
  | none => exact prepare_none_prepare_none first second pattern
  | some given =>
    have flat : ∀ c ∈ Text.ofInt given, isQuarterMarkup c = false :=
      fun _ => isQuarterMarkup_of_mem_ofInt
    rw [prepare_some second, prepare_some first, prepare_none_substituteQuarterAt, prepare_some second,
      substituteQuarterAt_substituteQuarterAt flat, prepare_none_prepare_none, ← prepare_some]

example :
    prepare .solar (some 12) (prepare .gregorian (some 12) "MQM[Q]WWW".toList) =
      "sM12sM[Q]wwW".toList := by
  rfl

/-! ### The marking steps in any order -/

/-- Whether a step is a pass over the runs of a text in which marks stay as they are. -/
def IsPass (step : Text → Text) : Prop :=
  ∃ chosen, SparesMark chosen ∧ ∀ text, step text = markRuns chosen text

theorem isPass_of_mem_solarSteps
    {step : Text → Text}
    (member : step ∈ solarSteps) :
    IsPass step := by
  rw [solarSteps_eq] at member
  obtain ⟨rule, listed, rfl⟩ := List.mem_map.1 member
  have isToken : ∀ rule ∈ solarTokens, 0 < rule.size ∧ rule.letter ≠ solarMark := by decide
  obtain ⟨positive, notMark⟩ := isToken rule listed
  refine ⟨rule.chooses, ?_, apply_eq_markRuns positive⟩
  intro size
  simp [RunRule.chooses, notMark.symm]

/-- Each of two passes leaves the runs of the other to it: both orders mark what either of them
marks. -/
theorem IsPass.comm
    {first second : Text → Text}
    (isFirst : IsPass first)
    (isSecond : IsPass second)
    (text : Text) :
    second (first text) = first (second text) := by
  obtain ⟨firstChosen, firstSpares, firstMarks⟩ := isFirst
  obtain ⟨secondChosen, secondSpares, secondMarks⟩ := isSecond
  calc second (first text)
      = markRuns secondChosen (markRuns firstChosen text) := by rw [firstMarks, secondMarks]
    _ = markRuns (fun letter size => firstChosen letter size || secondChosen letter size) text :=
        markRuns_markRuns firstSpares secondSpares text
    _ = markRuns (fun letter size => secondChosen letter size || firstChosen letter size) text := by
        simp only [Bool.or_comm]
    _ = markRuns firstChosen (markRuns secondChosen text) :=
        (markRuns_markRuns secondSpares firstSpares text).symm
    _ = first (second text) := by rw [firstMarks, secondMarks]

/-- The solar calendar marks a pattern in the same way whatever the order of its six steps: a token
is a whole run, so that a shorter one is never found inside a longer one. -/
theorem applySteps_of_perm
    {steps : List (Text → Text)}
    (reordered : steps.Perm solarSteps)
    (text : Text) :
    applySteps steps text = mark .solar text := by
  apply reordered.foldl_eq'
  intro first isFirst second isSecond current
  have firstPass := isPass_of_mem_solarSteps (reordered.subset isFirst)
  have secondPass := isPass_of_mem_solarSteps (reordered.subset isSecond)
  exact firstPass.comm secondPass current

/-- From the last step to the first, single letters are marked before the names of months. -/
theorem applySteps_reverse :
    solarSteps.reverse.Perm solarSteps ∧
      applySteps solarSteps.reverse "YYYY/MMMM/sMM-D".toList =
        mark .solar "YYYY/MMMM/sMM-D".toList ∧
      mark .solar "YYYY/MMMM/sMM-D".toList = "sYYYY/sMMMM/sMM-sD".toList :=
  have reordered := List.reverse_perm solarSteps
  ⟨reordered, applySteps_of_perm reordered _, by rfl⟩

end Daybook.Pattern
