import Daybook.Proofs.Pattern.Brackets
import Daybook.Proofs.Pattern.Spelling
import Mathlib.Data.List.SplitBy

/-!
Contract: a pattern is prepared in one pass over its maximal runs of equal characters.

Owns:
- the maximal runs of a text, and induction along them;
- what becomes of a single run, by its letter, its length and the character in front of it;
- the preparation of a pattern without a quarter as that pass.

Does not own: the steps of the preparation, quarters, or what a prepared pattern means.
-/

namespace Daybook.Pattern

/-- The maximal runs of equal characters of a text. -/
def runs (text : Text) : List Text :=
  text.splitBy fun first second => first == second

/-- The lengths of the runs of a letter that the solar calendar marks. -/
def markedSizes : Char → List Nat
  | 'M' => [1, 2, 4]
  | 'D' => [1, 2]
  | 'Y' => [4]
  | _ => []

/-- Whether the mark is put in front of a run that follows the given character. -/
def TakesMark (system : CalendarSystem) (before : Option Char) (run : Text) : Prop :=
  system = .solar ∧ before ≠ some solarMark ∧ run.length ∈ run.head?.elim [] markedSizes

instance (system : CalendarSystem) (before : Option Char) (run : Text) :
    Decidable (TakesMark system before run) :=
  inferInstanceAs (Decidable (_ ∧ _ ∧ _))

/-- What becomes of a run that follows the given character: pairs of week letters are written small,
and other runs are copied, behind a mark where they take one. -/
def rewriteRun (system : CalendarSystem) (before : Option Char) (run : Text) : Text :=
  if run.head? = some 'W' then
    List.replicate (2 * (run.length / 2)) 'w' ++ List.replicate (run.length % 2) 'W'
  else if TakesMark system before run then solarMark :: run
  else run

/-- What becomes of runs that follow the given character, from the first to the last.  In front of
each stands the last character of the one before. -/
def rewriteRuns (system : CalendarSystem) (before : Option Char) : List Text → Text
  | [] => []
  | run :: later => rewriteRun system before run ++ rewriteRuns system run.getLast? later

/-! ### Runs -/

/-- A text is its first run, which is not empty, followed by a text that goes on with another
character. -/
@[elab_as_elim]
theorem runInduction
    {motive : Text → Prop}
    (nil : motive [])
    (run : ∀ letter size rest, rest.head? ≠ some letter → motive rest →
      motive (List.replicate (size + 1) letter ++ rest))
    (text : Text) :
    motive text := by
  induction length : text.length using Nat.strong_induction_on generalizing text with
  | _ bound inductionHypothesis =>
    cases text with
    | nil => exact nil
    | cons letter others =>
      obtain ⟨rest, whole, stops⟩ := exists_run letter (letter :: others)
      rw [runLength_cons_self] at whole
      have shorter : rest.length < bound := by
        rw [← length, whole, List.length_append, List.length_replicate]
        omega
      rw [whole]
      exact run letter _ rest stops (inductionHypothesis rest.length shorter rest rfl)

theorem runs_replicate_append
    {letter : Char}
    {rest : Text}
    (size : Nat)
    (stops : rest.head? ≠ some letter) :
    runs (List.replicate (size + 1) letter ++ rest) =
      List.replicate (size + 1) letter :: runs rest := by
  have apart : ∀ last ∈ (List.replicate (size + 1) letter).getLast?, ∀ next ∈ rest.head?,
      (last == next) = false := by
    intro last isLast next isNext
    have same : last = letter :=
      List.eq_of_mem_replicate (List.mem_of_getLast? isLast)
    subst same
    simp only [beq_eq_false_iff_ne]
    rintro rfl
    exact stops isNext
  have whole : runs (List.replicate (size + 1) letter) = [List.replicate (size + 1) letter] := by
    refine List.splitBy_of_isChain (by simp) ?_
    exact List.isChain_replicate_of_rel (size + 1) (beq_self_eq_true letter)
  rw [runs, List.splitBy_append apart]
  exact congrArg (· ++ runs rest) whole

/-! ### Single runs -/

/-- The letters and lengths that the steps of the solar calendar mark. -/
theorem isSolarRun_iff
    (letter : Char)
    (size : Nat) :
    isSolarRun letter size = true ↔ size ∈ markedSizes letter := by
  simp only [isSolarRun, solarTokens, solarRules, solarLetters, RunRule.chooses]
  unfold markedSizes
  split <;> simp_all <;> omega

theorem lowerWeeks_replicate_append
    {rest : Text}
    (size : Nat)
    (stops : rest.head? ≠ some 'W') :
    lowerWeeks (List.replicate size 'W' ++ rest) =
      List.replicate (2 * (size / 2)) 'w' ++ List.replicate (size % 2) 'W' ++ lowerWeeks rest := by
  induction size using Nat.twoStepInduction with
  | zero => rfl
  | one =>
    -- The letter has no partner, neither in its run nor behind it.
    show lowerWeeks ('W' :: rest) = 'W' :: lowerWeeks rest
    rw [lowerWeeks]
    rintro later - rfl
    exact stops rfl
  | more size inductionHypothesis _ =>
    have half : 2 * ((size + 2) / 2) = 2 * (size / 2) + 2 := by omega
    have parity : (size + 2) % 2 = size % 2 := by omega
    rw [half, parity]
    show lowerWeeks ('W' :: 'W' :: (List.replicate size 'W' ++ rest)) = _
    rw [lowerWeeks, inductionHypothesis]
    rfl

/-! ### The pass -/

/-- The runs that a calendar marks, by letter and length. -/
def marksRun (system : CalendarSystem) (letter : Char) (size : Nat) : Bool :=
  system == .solar && isSolarRun letter size

theorem mark_eq_markRunsAfter
    (system : CalendarSystem)
    (text : Text) :
    mark system text = markRunsAfter (marksRun system) none text := by
  cases system with
  | solar => exact mark_solar text
  | gregorian => exact (markRunsAfter_nothing none text).symm

theorem marksRun_iff
    (system : CalendarSystem)
    (before : Option Char)
    (letter : Char)
    (size : Nat) :
    (before ≠ some solarMark ∧ marksRun system letter (size + 1) = true) ↔
      TakesMark system before (List.replicate (size + 1) letter) := by
  simp [marksRun, TakesMark, isSolarRun_iff, List.replicate_succ, and_left_comm]

/-- A run is marked and made small as if nothing else stood in the text. -/
theorem lowerWeeks_markRun
    {system : CalendarSystem}
    {before : Option Char}
    {letter : Char}
    {rest : Text}
    (size : Nat)
    (starts : before ≠ some letter)
    (stops : rest.head? ≠ some letter) :
    lowerWeeks (markRunsAfter (marksRun system) before
        (List.replicate (size + 1) letter ++ rest)) =
      rewriteRun system before (List.replicate (size + 1) letter) ++
        lowerWeeks (markRunsAfter (marksRun system) (some letter) rest) := by
  have marks := marksRun_iff system before letter size
  have length : (List.replicate (size + 1) letter).length = size + 1 := List.length_replicate
  have head : (List.replicate (size + 1) letter).head? = some letter := rfl
  rw [markRunsAfter_replicate _ (Nat.succ_pos size) starts stops, rewriteRun, head, length]
  simp only [marks]
  by_cases isWeek : letter = 'W'
  · subst isWeek
    have unmarked : ¬ TakesMark system before (List.replicate (size + 1) 'W') := by
      rintro ⟨-, -, isMarked⟩
      cases isMarked
    have following :
        (markRunsAfter (marksRun system) (some 'W') rest).head? ≠ some 'W' :=
      head?_markRunsAfter_ne _ _ (by decide) stops
    rw [if_neg unmarked, if_pos rfl, List.nil_append, lowerWeeks_replicate_append _ following]
  · have other : some letter ≠ some 'W' := fun same => isWeek (Option.some.inj same)
    have noWeek : ∀ mark : Text, 'W' ∉ mark → 'W' ∉ mark ++ List.replicate (size + 1) letter := by
      intro mark without member
      rcases List.mem_append.1 member with inMark | inRun
      · exact without inMark
      · exact isWeek (List.eq_of_mem_replicate inRun).symm
    rw [if_neg other]
    split
    · exact lowerWeeks_append (noWeek [solarMark] (by decide)) _
    · exact lowerWeeks_append (noWeek [] (by decide)) _

/-- A pattern without a quarter is prepared run by run. -/
theorem prepare_eq_rewriteRuns
    (system : CalendarSystem)
    (pattern : Text) :
    prepare system none pattern = rewriteRuns system none (runs pattern) := by
  have after : ∀ before, (∀ letter ∈ pattern.head?, before ≠ some letter) →
      lowerWeeks (markRunsAfter (marksRun system) before pattern) =
        rewriteRuns system before (runs pattern) := by
    induction pattern using runInduction with
    | nil => intro before _; rfl
    | run letter size rest stops inductionHypothesis =>
      intro before starts
      have last : (List.replicate (size + 1) letter).getLast? = some letter := by
        simp [List.getLast?_replicate]
      rw [runs_replicate_append size stops, rewriteRuns, last,
        lowerWeeks_markRun size (starts letter rfl) stops,
        inductionHypothesis (some letter) fun next isNext same => stops (same ▸ isNext)]
  rw [prepare_none, mark_eq_markRunsAfter]
  exact after none (by simp)

example :
    rewriteRuns .solar none (runs ['M', 'M', 's', 'M', 'W', 'W', 'W']) =
      ['s', 'M', 'M', 's', 'M', 'w', 'w', 'W'] := by
  rfl

end Daybook.Pattern
