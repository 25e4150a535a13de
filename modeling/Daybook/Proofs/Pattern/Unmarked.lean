import Daybook.Proofs.Pattern.Places

/-!
Contract: where a solar date reads a field that has no mark.

Owns:
- the room for fields in runs of a letter, with a mark in front or without one;
- the runs outside literals, along a text, that have room for a field without a mark.

Does not own: how a pattern is prepared.
-/

namespace Daybook.Pattern

/-- Whether a field without a mark is read in a run of a letter.  Behind a mark, the first field
that the run has room for takes the mark. -/
def readsUnmarked (before : Option Char) (letter : Char) (count : Nat) : Bool :=
  if before = some solarMark then
    match Field.ofRun? letter count with
    | some field => (Field.ofRun? letter (count - field.size)).isSome
    | none => false
  else (Field.ofRun? letter count).isSome

/-- Whether a text that follows a character has a run outside literals in which a field without a
mark is read. -/
def HasUnmarked (before : Option Char) (isOpen : Bool) (text : Text) : Prop :=
  Occurs (fun _ c => some c)
    (fun before c after =>
      before ≠ some c ∧ readsUnmarked before c (runLength c (c :: after)) = true)
    before isOpen text

/-- Whether a solar date reads a Gregorian field in a text. -/
def ReadsGregorian (text : Text) : Prop :=
  ∃ field, .token (.field .gregorian field) ∈ pieces .solar text

/-! ### The room for fields in runs -/

namespace Field

theorem ofRun?_zero (letter : Char) : ofRun? letter 0 = none := by
  simp [ofRun?, all, size]

theorem ofRun?_eq_none_of_succ
    {letter : Char}
    {count : Nat}
    (noRoom : ofRun? letter (count + 1) = none) :
    ofRun? letter count = none := by
  rw [ofRun?, List.find?_eq_none] at noRoom ⊢
  intro field member fits
  rw [Bool.and_eq_true, decide_eq_true_eq] at fits
  refine noRoom field member ?_
  rw [Bool.and_eq_true, decide_eq_true_eq]
  exact ⟨fits.1, Nat.le_succ_of_le fits.2⟩

theorem scan?_cons_eq_none_iff
    (c : Char)
    (rest : Text) :
    scan? (c :: rest) = none ↔ ofRun? c (runLength c (c :: rest)) = none := by
  obtain ⟨after, equal, stops⟩ := exists_run c (c :: rest)
  have positive : 0 < runLength c (c :: rest) := by
    rw [runLength_cons_self]
    exact Nat.succ_pos _
  have scanned := scan?_run positive stops
  rw [← equal] at scanned
  rw [scanned, Option.map_eq_none_iff]

/-- Where a run has no room for a field, the rest of it has none. -/
theorem scan?_tail
    {c : Char}
    {rest : Text}
    (noField : scan? (c :: rest) = none)
    (goesOn : rest.head? = some c) :
    scan? rest = none := by
  obtain ⟨after, rfl⟩ := List.head?_eq_some_iff.1 goesOn
  rw [scan?_cons_eq_none_iff] at noField ⊢
  rw [runLength_cons_self] at noField
  exact ofRun?_eq_none_of_succ noField

end Field

theorem readsUnmarked_eq_false
    {letter : Char}
    {count : Nat}
    (noRoom : Field.ofRun? letter count = none)
    (before : Option Char) :
    readsUnmarked before letter count = false := by
  rw [readsUnmarked, noRoom]
  split <;> rfl

/-! ### Runs along a text -/

theorem hasUnmarked_cons
    {before : Option Char}
    {isOpen : Bool}
    {c : Char}
    {rest : Text} :
    HasUnmarked before isOpen (c :: rest) ↔
      (¬ (isOpen = true ∧ ']' ∈ rest) ∧ before ≠ some c ∧
          readsUnmarked before c (runLength c (c :: rest)) = true) ∨
        HasUnmarked (some c) (openBehind isOpen c) rest :=
  occurs_cons

/-- A character at which no field can begin is passed over. -/
theorem hasUnmarked_skip
    {before : Option Char}
    {isOpen : Bool}
    {c : Char}
    {rest : Text}
    (noField : Field.scan? (c :: rest) = none) :
    HasUnmarked before isOpen (c :: rest) ↔ HasUnmarked (some c) (openBehind isOpen c) rest := by
  have noRoom := (Field.scan?_cons_eq_none_iff c rest).1 noField
  refine occurs_cons_unwanted ?_
  rintro ⟨-, reads⟩
  rw [readsUnmarked_eq_false noRoom] at reads
  cases reads

/-- Behind its letter, a run is passed over. -/
theorem hasUnmarked_replicate
    {letter : Char}
    (flat : isBracket letter = false)
    (isOpen : Bool)
    (count : Nat)
    (rest : Text) :
    HasUnmarked (some letter) isOpen (List.replicate count letter ++ rest) ↔
      HasUnmarked (some letter) isOpen rest := by
  induction count with
  | zero => exact Iff.rfl
  | succ count inductionHypothesis =>
    rw [List.replicate_succ, List.cons_append, ← inductionHypothesis, hasUnmarked_cons,
      openBehind_of_isBracket flat]
    exact or_iff_right fun both => both.2.1 rfl

/-- Behind a mark, a run counts exactly if its first field leaves room for another one. -/
theorem hasUnmarked_marked
    {before : Option Char}
    {isOpen : Bool}
    {field : Field}
    {count : Nat}
    {after : Text}
    (fits : Field.ofRun? field.letter (count + 1) = some field)
    (stops : after.head? ≠ some field.letter)
    (unclosed : isOpen = true → ']' ∉ List.replicate count field.letter ++ after) :
    HasUnmarked before isOpen (solarMark :: (List.replicate (count + 1) field.letter ++ after)) ↔
      (Field.ofRun? field.letter (count + 1 - field.size)).isSome = true ∨
        HasUnmarked (some field.letter) isOpen after := by
  have differs : some solarMark ≠ some field.letter := by
    simpa using field.letter_ne_solarMark.symm
  have outside : ¬ (isOpen = true ∧ ']' ∈ List.replicate count field.letter ++ after) :=
    fun both => unclosed both.1 both.2
  have run := runLength_replicate (count + 1) stops
  rw [hasUnmarked_skip rfl, openBehind_of_isBracket (by decide)]
  rw [List.replicate_succ, List.cons_append] at run ⊢
  rw [hasUnmarked_cons, run, openBehind_of_isBracket field.isBracket_letter,
    hasUnmarked_replicate field.isBracket_letter, readsUnmarked, if_pos rfl, fits]
  exact or_congr_left ⟨fun all => all.2.2, fun room => ⟨outside, differs, room⟩⟩

theorem readsGregorian_iff
    {text rest : Text}
    {piece : Piece}
    (opens : Opens .solar text piece rest)
    (other : ∀ field, piece ≠ .token (.field .gregorian field)) :
    ReadsGregorian text ↔ ReadsGregorian rest := by
  simp only [ReadsGregorian, opens.pieces_eq, List.mem_cons]
  refine exists_congr fun field => or_iff_right (other field).symm

theorem readsGregorian_of_scan?
    {text : Text}
    (scanned : Field.scan? text ≠ none) :
    ReadsGregorian text := by
  obtain ⟨⟨field, rest⟩, found⟩ := Option.ne_none_iff_exists'.1 scanned
  exact ⟨field, (Opens.field found).pieces_eq ▸ List.mem_cons_self⟩

theorem begins_behind
    {c : Char}
    {rest : Text}
    (noField : Field.scan? (c :: rest) = none)
    (unmarked : c = solarMark → Field.scan? rest = none)
    (scanned : Field.scan? rest ≠ none) :
    some c ≠ rest.head? ∧ some c ≠ some solarMark :=
  ⟨fun goesOn => scanned (Field.scan?_tail noField goesOn.symm),
    fun isMark => scanned (unmarked (Option.some.inj isMark))⟩

theorem not_mem_fieldLetters_of_isBracket
    {c : Char}
    (bracket : isBracket c = true) :
    c ∉ fieldLetters := by
  have letters : ∀ letter ∈ fieldLetters, isBracket letter = false := by decide
  intro member
  rw [letters c member] at bracket
  cases bracket

/-- A solar date reads a Gregorian field exactly in the runs that have room for one. -/
theorem readsGregorian_iff_hasUnmarked
    (before : Option Char)
    (isOpen : Bool)
    {text : Text}
    (unclosed : isOpen = true → ']' ∉ text)
    (begins : Field.scan? text ≠ none → before ≠ text.head? ∧ before ≠ some solarMark) :
    ReadsGregorian text ↔ HasUnmarked before isOpen text := by
  induction text using Opens.induction .solar generalizing before isOpen with
  | nil =>
    refine iff_of_false ?_ not_occurs_nil
    rintro ⟨field, member⟩
    rw [pieces] at member
    cases member
  | opens text piece rest opens inductionHypothesis =>
    cases opens with
    | @literal inner _ closing =>
      have isClosed : isOpen = false := Bool.eq_false_iff.2 fun remains =>
        unclosed remains (by simp)
      subst isClosed
      have noBracket : ∀ (before : Option Char) c after, isBracket c = true →
          ¬ (before ≠ some c ∧ readsUnmarked before c (runLength c (c :: after)) = true) := by
        rintro before c after bracket ⟨-, reads⟩
        have noRoom := Field.ofRun?_eq_none (not_mem_fieldLetters_of_isBracket bracket)
        rw [readsUnmarked_eq_false (noRoom _)] at reads
        cases reads
      have last : ('[' :: (inner ++ [']'])).foldl (fun _ c => some c) before = some ']' := by
        simp
      have later := inductionHypothesis (some ']') false (by simp)
        (begins_behind rfl (by simp [solarMark]))
      rw [readsGregorian_iff (.literal closing) (by simp), later]
      exact last ▸ (occurs_literal closing noBracket).symm
    | @marked following _ field _ scanned =>
      have opens : Opens .solar (solarMark :: following) _ rest := .marked rfl scanned
      obtain ⟨count, after, rfl, stops, fits, rfl⟩ := Field.exists_run_of_scan? scanned
      have unclosedRun : ∀ size, isOpen = true →
          ']' ∉ List.replicate size field.letter ++ after := by
        intro size remains member
        rcases List.mem_append.1 member with inRun | inRest
        · have closes := field.isBracket_letter
          rw [← List.eq_of_mem_replicate inRun] at closes
          cases closes
        · exact unclosed remains (by simp [inRest])
      rw [readsGregorian_iff opens (by simp), hasUnmarked_marked fits stops (unclosedRun count)]
      cases room : Field.ofRun? field.letter (count + 1 - field.size) with
      | none =>
        have beginsAfter :
            Field.scan? (List.replicate (count + 1 - field.size) field.letter ++ after) ≠ none →
              some field.letter ≠
                  (List.replicate (count + 1 - field.size) field.letter ++ after).head? ∧
                some field.letter ≠ some solarMark := by
          intro goesOn
          refine ⟨?_, by simpa using field.letter_ne_solarMark⟩
          cases left : count + 1 - field.size with
          | zero => exact stops.symm
          | succ more =>
            rw [left] at room goesOn
            rw [Field.scan?_run (Nat.succ_pos more) stops, room] at goesOn
            exact absurd rfl goesOn
        rw [inductionHypothesis (some field.letter) isOpen (unclosedRun _) beginsAfter,
          hasUnmarked_replicate field.isBracket_letter]
        exact (or_iff_right Bool.false_ne_true).symm
      | some other =>
        have positive : 0 < count + 1 - field.size := by
          refine Nat.pos_of_ne_zero fun none => ?_
          rw [none, Field.ofRun?_zero] at room
          cases room
        refine iff_of_true (readsGregorian_of_scan? ?_) (.inl rfl)
        rw [Field.scan?_run positive stops, room]
        exact Option.some_ne_none _
    | @field _ _ field scanned =>
      obtain ⟨count, after, rfl, stops, fits, rfl⟩ := Field.exists_run_of_scan? scanned
      have run := runLength_replicate (count + 1) stops
      obtain ⟨apart, unmarked⟩ := begins (by simp [scanned])
      rw [List.replicate_succ, List.cons_append] at *
      have reads : readsUnmarked before field.letter (count + 1) = true := by
        rw [readsUnmarked, if_neg unmarked, fits]
        rfl
      refine iff_of_true (readsGregorian_of_scan? (by simp [scanned])) ?_
      refine hasUnmarked_cons.2 (.inl ⟨?_, apart, run.symm ▸ reads⟩)
      exact fun both => unclosed both.1 (List.mem_cons_of_mem _ both.2)
    | week =>
      rw [readsGregorian_iff .week (by simp), hasUnmarked_skip rfl, hasUnmarked_skip rfl,
        openBehind_of_isBracket rfl, openBehind_of_isBracket rfl]
      exact inductionHypothesis _ isOpen
        (fun remains member => unclosed remains (by simp [member]))
        (begins_behind rfl (by simp [solarMark]))
    | quarter =>
      rw [readsGregorian_iff .quarter (by simp), hasUnmarked_skip rfl, openBehind_of_isBracket rfl]
      exact inductionHypothesis _ isOpen
        (fun remains member => unclosed remains (by simp [member]))
        (begins_behind rfl (by simp [solarMark]))
    | @plain c _ unclosedHere unmarked noField notQuarter notWeek =>
      rw [readsGregorian_iff (.plain unclosedHere unmarked noField notQuarter notWeek) (by simp),
        hasUnmarked_skip noField]
      exact inductionHypothesis (some c) _ (not_mem_of_openBehind unclosed unclosedHere)
        (begins_behind noField (unmarked rfl))

end Daybook.Pattern
