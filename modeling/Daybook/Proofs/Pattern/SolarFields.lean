import Daybook.Calendar.Building
import Daybook.Proofs.Pattern.Unmarked

/-!
Contract: which patterns show anything of a solar date but its solar fields.

Owns:
- runs with room for a field under the respelling of weeks and quarters;
- the same runs before they are marked, by their letter and length;
- the fields that are read in a prepared pattern.

Does not own: the reading of a text that is prepared already.
-/

namespace Daybook

namespace Pattern

/-! ### Weeks and quarters -/

/-- Whether a character is looked at when fields are read. -/
def isFieldMarkup (c : Char) : Bool :=
  c == solarMark || isBracket c || fieldLetters.contains c

/-- Two texts that differ only in characters that are no markup. -/
inductive Respelled (isMarkup : Char → Bool) : Text → Text → Prop where
  | nil : Respelled isMarkup [] []
  | same
      {text other : Text}
      (c : Char)
      (following : Respelled isMarkup text other) :
      Respelled isMarkup (c :: text) (c :: other)
  | replaced
      {text other replacement : Text}
      {c : Char}
      (nonempty : replacement ≠ [])
      (unread : ∀ d ∈ replacement, isMarkup d = false)
      (unreadBefore : isMarkup c = false)
      (following : Respelled isMarkup text other) :
      Respelled isMarkup (replacement ++ text) (c :: other)

theorem respelled_lowerWeeks
    {isMarkup : Char → Bool}
    (unread : ∀ c ∈ ['W', 'w'], isMarkup c = false)
    (text : Text) :
    Respelled isMarkup (lowerWeeks text) text := by
  have lowered : ∀ c ∈ ['w'], isMarkup c = false := fun c member =>
    unread c (List.mem_cons_of_mem 'W' member)
  have read : isMarkup 'W' = false := unread 'W' List.mem_cons_self
  fun_induction lowerWeeks text with
  | case1 rest inductionHypothesis =>
    exact .replaced (List.cons_ne_nil 'w' []) lowered read
      (.replaced (List.cons_ne_nil 'w' []) lowered read inductionHypothesis)
  | case2 c rest _ inductionHypothesis => exact .same c inductionHypothesis
  | case3 => exact .nil

theorem respelled_substituteQuarterAt
    {isMarkup : Char → Bool}
    (unreadBefore : isMarkup 'Q' = false)
    {digits : Text}
    (nonempty : digits ≠ [])
    (unread : ∀ d ∈ digits, isMarkup d = false)
    (depth : Nat)
    (text : Text) :
    Respelled isMarkup (substituteQuarterAt digits depth text) text := by
  induction text generalizing depth with
  | nil => exact .nil
  | cons c rest inductionHypothesis =>
    rw [substituteQuarterAt]
    split
    · exact .same c (inductionHypothesis (depth + 1))
    · split
      · exact .same c (inductionHypothesis (depth - 1))
      · split
        · rename_i replaced
          exact .replaced nonempty unread (replaced.1 ▸ unreadBefore) (inductionHypothesis depth)
        · exact .same c (inductionHypothesis depth)

theorem respelled_markRunsAfter
    {isMarkup : Char → Bool}
    (unread : isMarkup solarMark = false)
    {chosen : Char → Nat → Bool}
    (spared : ∀ c, isMarkup c = true → ∀ size, chosen c size = false)
    (before : Option Char)
    (text : Text) :
    Respelled isMarkup (markRunsAfter chosen before text) text := by
  induction text generalizing before with
  | nil => exact .nil
  | cons c rest inductionHypothesis =>
    rw [markRunsAfter]
    split
    · rename_i marks
      have unreadHere : isMarkup c = false := by
        refine Bool.eq_false_iff.2 fun isRead => ?_
        rw [spared c isRead, Bool.and_false] at marks
        cases marks
      have unreadBoth : ∀ d ∈ [solarMark, c], isMarkup d = false := by
        simp [unread, unreadHere]
      exact .replaced (List.cons_ne_nil solarMark [c]) unreadBoth unreadHere
        (inductionHypothesis (some c))
    · exact .same c (inductionHypothesis (some c))

namespace Respelled

variable {isMarkup : Char → Bool} {text other : Text}

/-- Markup stays where it is. -/
theorem mem_iff
    (respelled : Respelled isMarkup text other)
    {c : Char}
    (isRead : isMarkup c = true) :
    c ∈ text ↔ c ∈ other := by
  have differs : ∀ d, isMarkup d = false → c ≠ d := by
    rintro d unread rfl
    rw [isRead] at unread
    cases unread
  induction respelled with
  | nil => exact Iff.rfl
  | same d _ inductionHypothesis =>
    rw [List.mem_cons, List.mem_cons]
    exact or_congr_right inductionHypothesis
  | @replaced _ _ replacement d _ unread unreadBefore _ inductionHypothesis =>
    have absent : c ∉ replacement := fun member => differs c (unread c member) rfl
    rw [List.mem_append, List.mem_cons, or_iff_right absent, or_iff_right (differs d unreadBefore)]
    exact inductionHypothesis

theorem runLength_eq
    (respelled : Respelled isMarkup text other)
    {letter : Char}
    (isRead : isMarkup letter = true) :
    runLength letter text = runLength letter other := by
  induction respelled with
  | nil => rfl
  | same c _ inductionHypothesis =>
    by_cases same : c = letter
    · subst same
      rw [runLength_cons_self, runLength_cons_self, inductionHypothesis]
    · rw [runLength_of_head?_ne (by simpa using same), runLength_of_head?_ne (by simpa using same)]
  | @replaced _ _ replacement c nonempty unread unreadBefore _ inductionHypothesis =>
    obtain ⟨first, others, rfl⟩ := List.exists_cons_of_ne_nil nonempty
    have differs : ∀ d, isMarkup d = false → d ≠ letter := by
      rintro d unreadHere rfl
      rw [isRead] at unreadHere
      cases unreadHere
    rw [runLength_of_head?_ne, runLength_of_head?_ne]
    · simpa using differs c unreadBefore
    · simpa using differs first (unread first List.mem_cons_self)

end Respelled

/-- Before a quarter is put in, a pattern keeps every character but the letters of its tokens, and
gains none but the mark. -/
theorem mem_prepare_none_iff
    (system : CalendarSystem)
    {c : Char}
    (free : c ∉ solarMark :: 'W' :: 'w' :: fieldLetters)
    (pattern : Text) :
    c ∈ prepare system none pattern ↔ c ∈ pattern := by
  have isRead : (c == c) = true := beq_self_eq_true c
  have unread : ∀ d ∈ solarMark :: 'W' :: 'w' :: fieldLetters, (d == c) = false := fun d member =>
    beq_false_of_ne (ne_of_mem_of_not_mem member free)
  have lowered : Respelled (· == c) (lowerWeeks (mark system pattern)) (mark system pattern) := by
    refine respelled_lowerWeeks (fun d member => unread d ?_) (mark system pattern)
    exact List.mem_cons_of_mem solarMark (List.mem_append_left fieldLetters member)
  have spared : ∀ d, (d == c) = true → ∀ size, isSolarRun d size = false := by
    intro d same
    refine isSolarRun_of_not_mem fun isField => ?_
    rw [unread d (List.mem_append_right [solarMark, 'W', 'w'] isField)] at same
    cases same
  rw [prepare_none, lowered.mem_iff isRead]
  cases system with
  | solar =>
    have marked : Respelled (· == c) (markRunsAfter isSolarRun none pattern) pattern :=
      respelled_markRunsAfter (unread solarMark List.mem_cons_self) spared none pattern
    rw [mark_solar]
    exact marked.mem_iff isRead
  | gregorian => exact Iff.rfl

/-- Whether the characters before two texts are alike as far as fields are concerned. -/
def SameMarkup (first second : Option Char) : Prop :=
  first.filter isFieldMarkup = second.filter isFieldMarkup

namespace SameMarkup

variable {first second : Option Char}

theorem eq_some_iff
    (alike : SameMarkup first second)
    {c : Char}
    (isMarkup : isFieldMarkup c = true) :
    first = some c ↔ second = some c := by
  have filtered : ∀ before : Option Char,
      before.filter isFieldMarkup = some c ↔ before = some c := by
    intro before
    rw [Option.filter_eq_some_iff, and_iff_left isMarkup]
  rw [← filtered first, alike, filtered second]

theorem readsUnmarked_eq
    (alike : SameMarkup first second)
    (letter : Char)
    (count : Nat) :
    readsUnmarked first letter count = readsUnmarked second letter count := by
  rw [readsUnmarked, readsUnmarked]
  exact if_congr (alike.eq_some_iff (by decide)) rfl rfl

end SameMarkup

theorem foldl_last
    (before : Option Char)
    (text : Text) :
    text.foldl (fun _ c => some c) before = text.getLast?.or before := by
  induction text generalizing before with
  | nil => rfl
  | cons c text inductionHypothesis =>
    rw [List.foldl_cons, inductionHypothesis, List.getLast?_cons]
    cases text.getLast? <;> rfl

theorem not_mem_fieldLetters_of_isFieldMarkup
    {c : Char}
    (unread : isFieldMarkup c = false) :
    c ∉ fieldLetters ∧ isBracket c = false := by
  simp only [isFieldMarkup, Bool.or_eq_false_iff, List.contains_eq_mem, decide_eq_false_iff_not]
    at unread
  exact ⟨unread.2, unread.1.2⟩

/-- Runs with room for a field stay, whatever else is respelled. -/
theorem Respelled.hasUnmarked_iff
    {text other : Text}
    (respelled : Respelled isFieldMarkup text other)
    {before beforeOther : Option Char}
    (alike : SameMarkup before beforeOther)
    (isOpen : Bool) :
    HasUnmarked before isOpen text ↔ HasUnmarked beforeOther isOpen other := by
  induction respelled generalizing before beforeOther isOpen with
  | nil => exact iff_of_false not_occurs_nil not_occurs_nil
  | @same text other c following inductionHypothesis =>
    have sameRun : (before ≠ some c ∧ readsUnmarked before c (runLength c (c :: text)) = true) ↔
        (beforeOther ≠ some c ∧ readsUnmarked beforeOther c (runLength c (c :: other)) = true) := by
      cases isMarkup : isFieldMarkup c with
      | true =>
        rw [runLength_cons_self, runLength_cons_self, following.runLength_eq isMarkup,
          alike.readsUnmarked_eq, ne_eq, ne_eq, alike.eq_some_iff isMarkup]
      | false =>
        have noRoom := Field.ofRun?_eq_none (not_mem_fieldLetters_of_isFieldMarkup isMarkup).1
        rw [readsUnmarked_eq_false (noRoom _), readsUnmarked_eq_false (noRoom _)]
        exact iff_of_false (fun both => Bool.false_ne_true both.2)
          fun both => Bool.false_ne_true both.2
    rw [hasUnmarked_cons, hasUnmarked_cons, following.mem_iff rfl, sameRun,
      inductionHypothesis rfl (openBehind isOpen c)]
  | @replaced text other replacement c nonempty unread unreadBefore following inductionHypothesis =>
    have parts : ∀ d ∈ replacement, d ∉ fieldLetters ∧ isBracket d = false := fun d member =>
      not_mem_fieldLetters_of_isFieldMarkup (unread d member)
    obtain ⟨notLetter, flat⟩ := not_mem_fieldLetters_of_isFieldMarkup unreadBefore
    have noField : Field.scan? (c :: other) = none := by
      refine Field.scan?_eq_none fun letter member same => notLetter ?_
      exact Option.some.inj same ▸ member
    have alikeAfter : SameMarkup (replacement.foldl (fun _ d => some d) before) (some c) := by
      rw [foldl_last, List.getLast?_eq_some_getLast nonempty, SameMarkup]
      have unreadLast := unread _ (List.getLast_mem nonempty)
      simp [Option.filter, unreadLast, unreadBefore]
    rw [hasUnmarked_skip noField, openBehind_of_isBracket flat,
      ← inductionHypothesis alikeAfter isOpen]
    refine occurs_append_unwanted (fun d member => (parts d member).2) ?_
    rintro d member state after ⟨-, reads⟩
    rw [readsUnmarked_eq_false (Field.ofRun?_eq_none (parts d member).1 _)] at reads
    cases reads

/-! ### Marks -/

/-- Whether a run of a letter is longer than the token that it is read as.  Behind a mark, years
reach further. -/
def isOverlong (before : Option Char) (letter : Char) (count : Nat) : Bool :=
  match letter with
  | 'M' => count = 3 || 4 < count
  | 'D' => 2 < count
  | 'Y' => (if before = some solarMark then 7 else 4) < count
  | _ => false

private theorem isOverlong_unmarked
    {before : Option Char}
    (unmarked : before ≠ some solarMark)
    (letter : Char)
    (count : Nat) :
    isOverlong before letter count = isOverlong none letter count := by
  unfold isOverlong
  rw [if_neg unmarked, if_neg (by simp)]

private theorem readsUnmarked_unmarked
    {before : Option Char}
    (unmarked : before ≠ some solarMark)
    (letter : Char)
    (count : Nat) :
    readsUnmarked before letter count = readsUnmarked none letter count := by
  rw [readsUnmarked, readsUnmarked, if_neg unmarked, if_neg (by simp)]

/-- A run is too long exactly if a field is left over once the run has been marked. -/
theorem isOverlong_eq
    (before : Option Char)
    {letter : Char}
    (isField : letter ∈ fieldLetters)
    (count : Nat) :
    isOverlong before letter count =
      readsUnmarked (if isSolarRun letter count then some solarMark else before) letter count := by
  have known : ∀ before ∈ [none, some solarMark],
      isOverlong before letter count =
        readsUnmarked (if isSolarRun letter count then some solarMark else before)
          letter count := by
    intro before member
    by_cases short : count < 8
    · have table : ∀ letter ∈ fieldLetters, ∀ count < 8, ∀ before ∈ [none, some solarMark],
          isOverlong before letter count =
            readsUnmarked (if isSolarRun letter count then some solarMark else before)
              letter count := by decide
      exact table letter isField count short before member
    · -- In a run of that length, two fields have room.
      obtain ⟨more, rfl⟩ := Nat.exists_eq_add_of_le' (Nat.le_of_not_lt short)
      simp only [List.mem_cons, List.not_mem_nil, or_false] at member
      simp only [fieldLetters, List.mem_cons, List.not_mem_nil, or_false] at isField
      rcases isField with rfl | rfl | rfl
      all_goals
        rcases member with rfl | rfl
        · simp [isOverlong, readsUnmarked, Field.ofRun?, Field.all, Field.size, Field.letter,
            isSolarRun, solarTokens, solarRules, solarLetters, RunRule.chooses]
        · simp [isOverlong, readsUnmarked, Field.ofRun?, Field.all, Field.size, Field.letter,
            isSolarRun, solarTokens, solarRules, solarLetters, RunRule.chooses]
  by_cases marked : before = some solarMark
  · exact known before (by simp [marked])
  · rw [isOverlong_unmarked marked, known none (by simp)]
    split
    · rfl
    · exact (readsUnmarked_unmarked marked letter count).symm

theorem isOverlong_eq_false
    {letter : Char}
    (other : letter ∉ fieldLetters)
    (before : Option Char)
    (count : Nat) :
    isOverlong before letter count = false := by
  simp only [fieldLetters, List.mem_cons, List.not_mem_nil, or_false, not_or] at other
  unfold isOverlong
  split
  · exact absurd rfl other.2.1
  · exact absurd rfl other.2.2
  · exact absurd rfl other.1
  · rfl

/-- Whether a text that follows a character has a run outside literals that is too long. -/
def HasOverlong (before : Option Char) (isOpen : Bool) (text : Text) : Prop :=
  Occurs (fun _ c => some c)
    (fun before c after => before ≠ some c ∧ isOverlong before c (runLength c (c :: after)) = true)
    before isOpen text

/-- Marking leaves room for fields without a mark in the runs that are too long, and in no other. -/
theorem hasUnmarked_markRunsAfter
    (before : Option Char)
    (isOpen : Bool)
    (text : Text) :
    HasUnmarked before isOpen (markRunsAfter isSolarRun before text) ↔
      HasOverlong before isOpen text := by
  induction text generalizing before isOpen with
  | nil => exact iff_of_false not_occurs_nil not_occurs_nil
  | cons c rest inductionHypothesis =>
    have closings := (SameBrackets.of_filter
      (filter_markRunsAfter isSolarRun (some c) rest)).closing_mem_iff
    have later := inductionHypothesis (some c) (openBehind isOpen c)
    unfold HasOverlong at later ⊢
    by_cases isField : c ∈ fieldLetters
    · have notMark : c ≠ solarMark := ne_of_mem_of_not_mem isField (by decide)
      have sameRun : runLength c (c :: markRunsAfter isSolarRun (some c) rest) =
          runLength c (c :: rest) := by
        rw [runLength_cons_self, runLength_markRunsAfter isSolarRun notMark, runLength_cons_self]
      rw [occurs_cons, isOverlong_eq before isField]
      cases marks : opensRun c before && isSolarRun c (runLength c (c :: rest)) with
      | true =>
        obtain ⟨opens, chosen⟩ := Bool.and_eq_true_iff.1 marks
        have apart : before ≠ some c := by
          rintro rfl
          rw [opensRun_self] at opens
          cases opens
        have behindMark : some solarMark ≠ some c := by simpa using notMark.symm
        rw [markRunsAfter_mark marks, hasUnmarked_skip rfl, openBehind_of_isBracket (by decide),
          hasUnmarked_cons, sameRun, closings, later, if_pos chosen]
        simp only [ne_eq, apart, behindMark, not_false_eq_true, true_and]
      | false =>
        have sameRead : before ≠ some c →
            readsUnmarked before c (runLength c (c :: rest)) =
              readsUnmarked
                (if isSolarRun c (runLength c (c :: rest)) then some solarMark else before) c
                (runLength c (c :: rest)) := by
          intro apart
          split
          · rename_i chosen
            have marked : before = some solarMark := by
              simpa [opensRun, chosen, apart] using marks
            rw [marked]
          · rfl
        rw [markRunsAfter_copy marks, hasUnmarked_cons, sameRun, closings, later]
        refine or_congr_left (and_congr_right fun _ => and_congr_right fun apart => ?_)
        rw [sameRead apart]
    · have noField : Field.scan? (c :: markRunsAfter isSolarRun (some c) rest) = none := by
        refine Field.scan?_eq_none fun letter member same => isField ?_
        exact Option.some.inj same ▸ member
      rw [markRunsAfter_copy (by rw [isSolarRun_of_not_mem isField, Bool.and_false]),
        hasUnmarked_skip noField, later, occurs_cons_unwanted]
      rintro ⟨-, tooLong⟩
      rw [isOverlong_eq_false isField] at tooLong
      cases tooLong

/-! ### Whole patterns -/

/-- Whether a pattern has a run outside literals that is too long. -/
def Overlong (pattern : Text) : Prop :=
  ∃ before c after, pattern = before ++ c :: after ∧ before.getLast? ≠ some c ∧
    ¬ InLiteral before after ∧ isOverlong before.getLast? c (runLength c (c :: after)) = true

theorem overlong_iff (pattern : Text) : Overlong pattern ↔ HasOverlong none false pattern := by
  have last : ∀ before : Text, before.foldl (fun _ c => some c) none = before.getLast? := by
    intro before
    rw [foldl_last, Option.or_none]
  constructor
  · rintro ⟨before, c, after, equal, apart, outside, tooLong⟩
    exact ⟨before, c, after, equal, outside, by rw [last]; exact ⟨apart, tooLong⟩⟩
  · rintro ⟨before, c, after, equal, outside, wanted⟩
    rw [last] at wanted
    exact ⟨before, c, after, equal, wanted.1, outside, wanted.2⟩

instance (pattern : Text) : Decidable (Overlong pattern) :=
  have : Decidable (HasOverlong none false pattern) := decidableOccurs none false pattern
  decidable_of_iff' _ (overlong_iff pattern)

theorem isFieldMarkup_of_mem_ofInt
    {quarter : Int}
    {c : Char}
    (member : c ∈ Text.ofInt quarter) :
    isFieldMarkup c = false := by
  have unlisted : c ∉ solarMark :: '[' :: ']' :: fieldLetters :=
    Text.not_mem_of_mem_ofInt (by decide) member
  simpa [isFieldMarkup, isBracket, and_assoc] using unlisted

/-- A solar date reads a Gregorian field in a pattern exactly if the pattern has a run that is too
long. -/
theorem readsGregorian_prepare_iff
    (quarter : Option Int)
    (pattern : Text) :
    ReadsGregorian (prepare .solar quarter pattern) ↔ Overlong pattern := by
  have begins : ∀ text : Text,
      Field.scan? text ≠ none → none ≠ text.head? ∧ none ≠ some solarMark := by
    intro text scanned
    refine ⟨?_, by simp⟩
    cases text with
    | nil => exact absurd rfl scanned
    | cons => simp
  have lowered : HasUnmarked none false (prepare .solar none pattern) ↔ Overlong pattern := by
    rw [prepare_none, (respelled_lowerWeeks (by decide) _).hasUnmarked_iff rfl false, mark_solar, overlong_iff]
    exact hasUnmarked_markRunsAfter none false pattern
  rw [readsGregorian_iff_hasUnmarked none false (by simp) (begins _)]
  cases quarter with
  | none => exact lowered
  | some given =>
    have respelled := respelled_substituteQuarterAt rfl (Text.ofInt_ne_nil given)
      (fun _ => isFieldMarkup_of_mem_ofInt) 0 (prepare .solar none pattern)
    rw [prepare_some, respelled.hasUnmarked_iff rfl false, lowered]

end Pattern

open Pattern

/-- A solar date reads a Gregorian field in a pattern exactly if the pattern has a run that is too
long; without one, every field says what it is in the solar date. -/
theorem Date.tokenText_prepare_solar
    (quarter : Option Int)
    (pattern : Text) :
    ((∃ field, .token (.field .gregorian field) ∈ pieces .solar (prepare .solar quarter pattern)) ↔
        Overlong pattern) ∧
      (¬ Overlong pattern →
        ∀ (locale : Locale) (date : Date) (named : CalendarSystem) (field : Field),
          date.system = .solar →
            .token (.field named field) ∈ pieces .solar (prepare .solar quarter pattern) →
              date.tokenText locale (.field named field) = field.text locale date) := by
  have read := readsGregorian_prepare_iff quarter pattern
  refine ⟨read, ?_⟩
  intro short locale date named field isSolar member
  have sameSystem : named = date.system := by
    cases named with
    | solar => exact isSolar.symm
    | gregorian => exact absurd (read.1 ⟨field, member⟩) short
  rw [sameSystem, tokenText]

/-- Marked years may be longer, and literals may hold anything. -/
theorem Date.tokenText_markedYears :
    ¬ Overlong "[MMM]sYYYYYYY-MM".toList ∧
      .token (.field .solar .paddedMonth) ∈
          pieces .solar (prepare .solar none "[MMM]sYYYYYYY-MM".toList) ∧
      Date.tokenText .standard ⟨.solar, ⟨739000, by decide, by decide⟩⟩
          (.field .solar .paddedMonth) =
        Field.paddedMonth.text .standard ⟨.solar, ⟨739000, by decide, by decide⟩⟩ :=
  have short : ¬ Overlong "[MMM]sYYYYYYY-MM".toList := by decide
  have member : .token (.field .solar .paddedMonth) ∈
      pieces .solar (prepare .solar none "[MMM]sYYYYYYY-MM".toList) := by
    rw [pieces_eq_piecesWithin]
    decide
  ⟨short, member, (Date.tokenText_prepare_solar none _).2 short .standard
    ⟨.solar, ⟨739000, by decide, by decide⟩⟩ .solar .paddedMonth rfl member⟩

/-- Five year letters are no solar year: the year that is shown is the Gregorian one. -/
theorem Date.render_overlongYear :
    .token (.field .gregorian .year) ∈ pieces .solar (prepare .solar none "YYYYY".toList) ∧
      (do
        let date ← Date.ofParts .solar 1403 (some 8) 5
        date.render .standard (prepare .solar none "YYYYY".toList)) = .ok "2024Y".toList := by
  constructor
  · rw [pieces_eq_piecesWithin]
    decide
  · simp only [Date.render, pieces_eq_piecesWithin]
    rfl

end Daybook
