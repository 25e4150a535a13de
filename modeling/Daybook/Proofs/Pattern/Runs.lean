import Daybook.Pattern.Preparation

/-!
Contract: marking the tokens of a pattern is one pass over its runs of equal letters.

Owns:
- the length of the run of a letter at the head of a text;
- the pass that marks runs by their letter and length;
- the steps of the solar calendar, alone and one after the other, as such passes.

Does not own: the week letters, quarters, or what a marked token means.
-/

namespace Daybook.Pattern

/-- The number of times that a letter stands at the head of a text. -/
def runLength (letter : Char) (text : Text) : Nat :=
  (text.takeWhile (· == letter)).length

/-- Marks every run of chosen letter and length in a text that follows the given character, unless
the run is marked already. -/
def markRunsAfter (chosen : Char → Nat → Bool) (before : Option Char) : Text → Text
  | [] => []
  | c :: rest =>
    if opensRun c before && chosen c (runLength c (c :: rest)) then
      solarMark :: c :: markRunsAfter chosen (some c) rest
    else
      c :: markRunsAfter chosen (some c) rest

/-- Marks every run of chosen letter and length in a text. -/
def markRuns (chosen : Char → Nat → Bool) (text : Text) : Text :=
  markRunsAfter chosen none text

/-- Whether a rule marks the runs of the given letter and length. -/
def RunRule.chooses (rule : RunRule) (letter : Char) (size : Nat) : Bool :=
  letter == rule.letter && size == rule.size

/-! ### Runs -/

theorem runLength_cons_self (letter : Char) (rest : Text) :
    runLength letter (letter :: rest) = runLength letter rest + 1 := by
  simp [runLength]

theorem runLength_of_head?_ne
    {letter : Char}
    {text : Text}
    (other : text.head? ≠ some letter) :
    runLength letter text = 0 := by
  cases text with
  | nil => rfl
  | cons c rest =>
    have different : ¬ c = letter := by simpa using other
    simp [runLength, different]

theorem runLength_replicate
    {letter : Char}
    {rest : Text}
    (size : Nat)
    (other : rest.head? ≠ some letter) :
    runLength letter (List.replicate size letter ++ rest) = size := by
  induction size with
  | zero => exact runLength_of_head?_ne other
  | succ size inductionHypothesis =>
    rw [List.replicate_succ, List.cons_append, runLength_cons_self, inductionHypothesis]

/-- Every text begins with a run of a given letter, which may be empty. -/
theorem exists_run
    (letter : Char)
    (text : Text) :
    ∃ rest, text = List.replicate (runLength letter text) letter ++ rest ∧
      rest.head? ≠ some letter := by
  induction text with
  | nil => exact ⟨[], rfl, by simp⟩
  | cons c text inductionHypothesis =>
    by_cases same : c = letter
    · subst same
      obtain ⟨rest, equal, stops⟩ := inductionHypothesis
      refine ⟨rest, ?_, stops⟩
      rw [runLength_cons_self, List.replicate_succ, List.cons_append, ← equal]
    · have other : (c :: text).head? ≠ some letter := by simpa using same
      exact ⟨c :: text, by rw [runLength_of_head?_ne other]; rfl, other⟩

/-- A token stands at the head of a text, not followed by its own letter, exactly if it is the whole
run there. -/
theorem replicate_isPrefixOf_iff
    (letter : Char)
    (size : Nat)
    (text : Text) :
    ((List.replicate size letter).isPrefixOf text &&
      (text.drop size).head? != some letter) = (runLength letter text == size) := by
  induction size generalizing text with
  | zero =>
    cases text with
    | nil => rfl
    | cons c rest =>
      by_cases same : c = letter
      · simp [runLength, same]
      · simp [runLength, same]
  | succ size inductionHypothesis =>
    cases text with
    | nil => rfl
    | cons c rest =>
      by_cases same : c = letter
      · subst same
        simpa [List.replicate_succ, runLength_cons_self] using inductionHypothesis rest
      · have different : ¬ letter = c := Ne.symm same
        simp [List.replicate_succ, runLength, same, different]

/-! ### Single characters of a pass -/

theorem markRunsAfter_mark
    {chosen : Char → Nat → Bool}
    {before : Option Char}
    {c : Char}
    {rest : Text}
    (marks : (opensRun c before && chosen c (runLength c (c :: rest))) = true) :
    markRunsAfter chosen before (c :: rest) =
      solarMark :: c :: markRunsAfter chosen (some c) rest := by
  rw [markRunsAfter, if_pos marks]

theorem markRunsAfter_copy
    {chosen : Char → Nat → Bool}
    {before : Option Char}
    {c : Char}
    {rest : Text}
    (spares : (opensRun c before && chosen c (runLength c (c :: rest))) = false) :
    markRunsAfter chosen before (c :: rest) = c :: markRunsAfter chosen (some c) rest := by
  rw [markRunsAfter, spares, if_neg Bool.false_ne_true]

theorem opensRun_self (c : Char) : opensRun c (some c) = false := by
  simp [opensRun]

theorem opensRun_mark (c : Char) : opensRun c (some solarMark) = false := by
  simp [opensRun]

/-! ### Single steps -/

private theorem standsAt_eq
    (rule : RunRule)
    (positive : 0 < rule.size)
    (before : Option Char)
    (c : Char)
    (rest : Text) :
    rule.standsAt before (c :: rest) =
      (opensRun c before && rule.chooses c (runLength c (c :: rest))) := by
  rw [RunRule.standsAt, RunRule.token, Bool.and_assoc, replicate_isPrefixOf_iff,
    RunRule.chooses]
  by_cases same : c = rule.letter
  · simp [same]
  · have none : runLength rule.letter (c :: rest) = 0 :=
      runLength_of_head?_ne (by simpa using same)
    have absent : (0 == rule.size) = false := by simpa using (Nat.ne_of_gt positive).symm
    simp [none, absent, same]

/-- A rule for a token is a pass that marks the runs of its letter and length. -/
theorem apply_eq_markRuns
    {rule : RunRule}
    (positive : 0 < rule.size)
    (text : Text) :
    rule.apply text = markRuns rule.chooses text := by
  have after : ∀ before, rule.applyAfter before text = markRunsAfter rule.chooses before text := by
    induction text with
    | nil => intro before; rfl
    | cons c rest inductionHypothesis =>
      intro before
      rw [RunRule.applyAfter, markRunsAfter, standsAt_eq rule positive, inductionHypothesis]
  exact after none

/-- The step for a single letter is a pass that marks its runs of length one. -/
theorem markLetter_eq_markRuns
    (letter : Char)
    (text : Text) :
    markLetter letter text = markRuns (RunRule.chooses ⟨letter, 1⟩) text := by
  have after : ∀ before,
      replaceLetterAfter letter [solarMark, letter] before text =
        markRunsAfter (RunRule.chooses ⟨letter, 1⟩) before text := by
    induction text with
    | nil => intro before; rfl
    | cons c rest inductionHypothesis =>
      intro before
      rw [replaceLetterAfter, markRunsAfter, inductionHypothesis]
      by_cases same : c = letter
      · subst same
        have single : (runLength c (c :: rest) == 1) = (rest.head? != some c) := by
          simpa using (replicate_isPrefixOf_iff c 1 (c :: rest)).symm
        by_cases opens : opensRun c before <;> by_cases follows : rest.head? = some c <;>
          simp [RunRule.chooses, single, opens, follows]
      · simp [RunRule.chooses, same]
  exact after none

/-! ### Steps one after the other -/

/-- The mark is no letter that a pass chooses. -/
def SparesMark (chosen : Char → Nat → Bool) : Prop :=
  ∀ size, chosen solarMark size = false

/-- A pass puts no letter in front of a text but the mark. -/
theorem head?_markRunsAfter_ne
    (chosen : Char → Nat → Bool)
    (before : Option Char)
    {letter : Char}
    {text : Text}
    (notMark : letter ≠ solarMark)
    (other : text.head? ≠ some letter) :
    (markRunsAfter chosen before text).head? ≠ some letter := by
  cases text with
  | nil => exact other
  | cons c rest =>
    rw [markRunsAfter]
    split
    · simpa using notMark.symm
    · simpa using other

theorem runLength_markRunsAfter
    (chosen : Char → Nat → Bool)
    {letter : Char}
    (notMark : letter ≠ solarMark)
    (text : Text) :
    runLength letter (markRunsAfter chosen (some letter) text) = runLength letter text := by
  induction text with
  | nil => rfl
  | cons c rest inductionHypothesis =>
    by_cases same : c = letter
    · subst same
      rw [markRunsAfter_copy (by rw [opensRun_self, Bool.false_and]), runLength_cons_self,
        inductionHypothesis, runLength_cons_self]
    · have other : (c :: rest).head? ≠ some letter := by simpa using same
      rw [runLength_of_head?_ne other,
        runLength_of_head?_ne (head?_markRunsAfter_ne chosen (some letter) notMark other)]

/-- Two passes are one pass that marks what either of them marks: the mark of the first neither
lengthens another run nor is looked for by the second. -/
theorem markRuns_markRuns
    {first second : Char → Nat → Bool}
    (firstSpares : SparesMark first)
    (secondSpares : SparesMark second)
    (text : Text) :
    markRuns second (markRuns first text) =
      markRuns (fun letter size => first letter size || second letter size) text := by
  have after : ∀ before,
      markRunsAfter second before (markRunsAfter first before text) =
        markRunsAfter (fun letter size => first letter size || second letter size) before text := by
    -- Both passes have copied the same character last, so they agree on where a run opens.  Only
    -- after a mark they do not: there the second pass meets the letter behind the mark.
    induction text with
    | nil => intro before; rfl
    | cons c rest inductionHypothesis =>
      intro before
      by_cases isMark : c = solarMark
      · subst isMark
        rw [markRunsAfter_copy (by rw [firstSpares, Bool.and_false]),
          markRunsAfter_copy (by rw [secondSpares, Bool.and_false]),
          markRunsAfter_copy (by rw [firstSpares, secondSpares, Bool.or_self, Bool.and_false]),
          inductionHypothesis]
      · have sameRun :
            runLength c (c :: markRunsAfter first (some c) rest) = runLength c (c :: rest) := by
          rw [runLength_cons_self, runLength_markRunsAfter first isMark, runLength_cons_self]
        cases marks : opensRun c before && first c (runLength c (c :: rest)) with
        | true =>
          have both :
              (opensRun c before && (first c (runLength c (c :: rest)) ||
                second c (runLength c (c :: rest)))) = true := by
            rw [Bool.and_or_distrib_left, marks, Bool.true_or]
          rw [markRunsAfter_mark marks,
            markRunsAfter_copy (by rw [secondSpares, Bool.and_false]),
            markRunsAfter_copy (by rw [opensRun_mark, Bool.false_and]),
            markRunsAfter_mark both, inductionHypothesis]
        | false =>
          have either :
              (opensRun c before && (first c (runLength c (c :: rest)) ||
                second c (runLength c (c :: rest)))) =
              (opensRun c before && second c (runLength c (c :: rest))) := by
            rw [Bool.and_or_distrib_left, marks, Bool.false_or]
          rw [markRunsAfter_copy marks]
          cases marksSecond : opensRun c before && second c (runLength c (c :: rest)) with
          | true =>
            rw [markRunsAfter_mark (by rw [sameRun, marksSecond]),
              markRunsAfter_mark (by rw [either, marksSecond]), inductionHypothesis]
          | false =>
            rw [markRunsAfter_copy (by rw [sameRun, marksSecond]),
              markRunsAfter_copy (by rw [either, marksSecond]), inductionHypothesis]
  exact after none

theorem markRunsAfter_nothing
    (before : Option Char)
    (text : Text) :
    markRunsAfter (fun _ _ => false) before text = text := by
  induction text generalizing before with
  | nil => rfl
  | cons c rest inductionHypothesis => simp [markRunsAfter, inductionHypothesis]

/-- Rules applied one after the other are one pass that marks what any of them marks. -/
theorem applySteps_eq_markRuns
    (rules : List RunRule)
    (tokens : ∀ rule ∈ rules, 0 < rule.size ∧ rule.letter ≠ solarMark)
    (text : Text) :
    applySteps (rules.map RunRule.apply) text =
      markRuns (fun letter size => rules.any fun rule => rule.chooses letter size) text := by
  have spares : ∀ rule ∈ rules, SparesMark rule.chooses := by
    intro rule member size
    simp [RunRule.chooses, (tokens rule member).2.symm]
  -- The rules come one after the other onto a text that an earlier pass has marked.
  have onto : ∀ chosen, SparesMark chosen →
      applySteps (rules.map RunRule.apply) (markRuns chosen text) =
        markRuns (fun letter size => chosen letter size ||
          rules.any fun rule => rule.chooses letter size) text := by
    induction rules with
    | nil => intro chosen _; simp [applySteps]
    | cons rule rest inductionHypothesis =>
      intro chosen chosenSpares
      have ruleSpares := spares rule List.mem_cons_self
      have restTokens : ∀ other ∈ rest, 0 < other.size ∧ other.letter ≠ solarMark :=
        fun other member => tokens other (List.mem_cons_of_mem rule member)
      have restSpares : ∀ other ∈ rest, SparesMark other.chooses :=
        fun other member => spares other (List.mem_cons_of_mem rule member)
      have bothSpare : SparesMark fun letter size =>
          chosen letter size || rule.chooses letter size := by
        intro size
        simp only [chosenSpares size, ruleSpares size, Bool.or_self]
      have following := inductionHypothesis restTokens restSpares _ bothSpare
      rw [List.map_cons, applySteps, List.foldl_cons,
        apply_eq_markRuns (tokens rule List.mem_cons_self).1,
        markRuns_markRuns chosenSpares ruleSpares]
      simpa only [applySteps, List.any_cons, Bool.or_assoc] using following
  have start := onto (fun _ _ => false) fun _ => rfl
  rwa [markRuns, markRunsAfter_nothing] at start

/-! ### The solar calendar -/

def solarTokens : List RunRule :=
  solarRules ++ solarLetters.map fun letter => ⟨letter, 1⟩

/-- Whether the solar calendar marks the runs of a letter and a length. -/
def isSolarRun (letter : Char) (size : Nat) : Bool :=
  solarTokens.any fun rule => rule.chooses letter size

theorem solarSteps_eq : solarSteps = solarTokens.map RunRule.apply := by
  have letters : ∀ letter, markLetter letter = RunRule.apply ⟨letter, 1⟩ := by
    intro letter
    funext text
    rw [markLetter_eq_markRuns, apply_eq_markRuns Nat.one_pos]
  rw [solarSteps, solarTokens, List.map_append, List.map_map, funext letters]
  rfl

/-- The solar calendar marks its tokens in one pass. -/
theorem mark_solar (text : Text) : mark .solar text = markRuns isSolarRun text := by
  rw [mark, solarSteps_eq]
  exact applySteps_eq_markRuns solarTokens (by decide) text

/-! ### Runs apart from each other -/

/-- A run that is no part of a longer one is marked by its letter and length, unless the mark stands
in front of it. -/
theorem markRunsAfter_replicate
    (chosen : Char → Nat → Bool)
    {before : Option Char}
    {letter : Char}
    {size : Nat}
    {rest : Text}
    (positive : 0 < size)
    (starts : before ≠ some letter)
    (stops : rest.head? ≠ some letter) :
    markRunsAfter chosen before (List.replicate size letter ++ rest) =
      (if before ≠ some solarMark ∧ chosen letter size = true then [solarMark] else []) ++
        List.replicate size letter ++ markRunsAfter chosen (some letter) rest := by
  have inside : ∀ count,
      markRunsAfter chosen (some letter) (List.replicate count letter ++ rest) =
        List.replicate count letter ++ markRunsAfter chosen (some letter) rest := by
    intro count
    induction count with
    | zero => rfl
    | succ count inductionHypothesis =>
      rw [List.replicate_succ, List.cons_append,
        markRunsAfter_copy (by rw [opensRun_self, Bool.false_and]), inductionHypothesis,
        List.cons_append]
  obtain ⟨count, rfl⟩ := Nat.exists_eq_succ_of_ne_zero (Nat.ne_of_gt positive)
  have whole := runLength_replicate (count + 1) stops
  have opens : opensRun letter before = (before != some solarMark) := by
    simp [opensRun, starts]
  rw [List.replicate_succ, List.cons_append] at whole ⊢
  rw [markRunsAfter, whole, inside, opens]
  by_cases marked : before = some solarMark
  · simp [marked]
  · by_cases selected : chosen letter (count + 1) <;> simp [marked, selected]

/-- Characters that are never chosen are left as they are. -/
theorem markRunsAfter_append
    (chosen : Char → Nat → Bool)
    (before : Option Char)
    {text : Text}
    (rest : Text)
    (spared : ∀ c ∈ text, ∀ size, chosen c size = false) :
    markRunsAfter chosen before (text ++ rest) =
      text ++ markRunsAfter chosen (text.getLast?.or before) rest := by
  induction text generalizing before with
  | nil => rfl
  | cons c text inductionHypothesis =>
    have following := inductionHypothesis (some c)
      fun other member => spared other (List.mem_cons_of_mem c member)
    rw [List.cons_append,
      markRunsAfter_copy (by rw [spared c List.mem_cons_self, Bool.and_false]), following,
      List.cons_append, List.getLast?_cons]
    cases text.getLast? <;> rfl

end Daybook.Pattern
