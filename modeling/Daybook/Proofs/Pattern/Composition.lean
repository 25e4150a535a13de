import Daybook.Proofs.Pattern.SolarFields
import Daybook.Proofs.Pattern.Spelling

/-!
Contract: patterns that are put together from tokens, literals and plain text have no run that is
too long.

Owns:
- the rows of segments in which no token touches its own letter;
- the runs that such a row spells, inside and outside brackets.

Does not own: rows that are read segment by segment, which have to be well formed.
-/

namespace Daybook.Pattern

namespace Segment

/-- A literal ends with its first closing bracket; plain text is not empty and has no letter of a
token. -/
def IsComposed : Segment → Prop
  | .symbol _ => True
  | .literal inner => ']' ∉ inner
  | .plain text => text ≠ [] ∧ ∀ c ∈ text, c ∉ symbolLetters

/-- Whether one segment can stand before another one without their tokens flowing together. -/
def MayTouch : Segment → Segment → Prop
  | .symbol first, .symbol second => first.letter ≠ second.letter
  | _, _ => True

instance : (segment : Segment) → Decidable segment.IsComposed
  | .symbol _ => inferInstanceAs (Decidable True)
  | .literal inner => inferInstanceAs (Decidable (']' ∉ inner))
  | .plain text => inferInstanceAs (Decidable (text ≠ [] ∧ ∀ c ∈ text, c ∉ symbolLetters))

instance : (first second : Segment) → Decidable (first.MayTouch second)
  | .symbol first, .symbol second => inferInstanceAs (Decidable (first.letter ≠ second.letter))
  | .symbol _, .literal _ | .symbol _, .plain _ => .isTrue trivial
  | .literal _, _ | .plain _, _ => .isTrue trivial

end Segment

/-- Every segment is what it is called, and tokens of one letter do not touch.  Unlike in a
well-formed row, literals and plain text may hold anything that does not end them. -/
structure Layout.Composed (layout : Layout) : Prop where
  segments : ∀ segment ∈ layout, segment.IsComposed
  neighbours : layout.IsChain Segment.MayTouch

instance (layout : Layout) : Decidable layout.Composed :=
  decidable_of_iff
    ((∀ segment ∈ layout, segment.IsComposed) ∧ layout.IsChain Segment.MayTouch)
    ⟨fun both => ⟨both.1, both.2⟩, fun composed => ⟨composed.segments, composed.neighbours⟩⟩

/-! ### Runs -/

/-- A run of the right length is passed over. -/
theorem hasOverlong_replicate
    {letter : Char}
    (flat : isBracket letter = false)
    {count : Nat}
    (short : ∀ before, isOverlong before letter (count + 1) = false)
    {after : Text}
    (stops : after.head? ≠ some letter)
    (before : Option Char)
    (isOpen : Bool) :
    HasOverlong before isOpen (List.replicate (count + 1) letter ++ after) ↔
      HasOverlong (some letter) isOpen after := by
  have run := runLength_replicate (count + 1) stops
  have passes : ∀ more, HasOverlong (some letter) isOpen (List.replicate more letter ++ after) ↔
      HasOverlong (some letter) isOpen after := by
    intro more
    induction more with
    | zero => exact Iff.rfl
    | succ more inductionHypothesis =>
      rw [List.replicate_succ, List.cons_append, ← inductionHypothesis, HasOverlong,
        occurs_cons_unwanted fun both => both.1 rfl, openBehind_of_isBracket flat]
      rfl
  rw [List.replicate_succ, List.cons_append] at run ⊢
  rw [HasOverlong, occurs_cons_unwanted, openBehind_of_isBracket flat]
  · exact passes count
  · rintro ⟨-, tooLong⟩
    rw [run, short before] at tooLong
    cases tooLong

/-- Characters that are no letters of fields are in no run that is too long. -/
theorem not_hasOverlong_append
    {text rest : Text}
    (free : ∀ c ∈ text, c ∉ fieldLetters)
    (short : ∀ before isOpen, ¬ HasOverlong before isOpen rest)
    (before : Option Char)
    (isOpen : Bool) :
    ¬ HasOverlong before isOpen (text ++ rest) := by
  induction text generalizing before isOpen with
  | nil => exact short before isOpen
  | cons c text inductionHypothesis =>
    have unwanted : ¬ (before ≠ some c ∧
        isOverlong before c (runLength c (c :: (text ++ rest))) = true) := by
      rintro ⟨-, tooLong⟩
      rw [isOverlong_eq_false (free c List.mem_cons_self)] at tooLong
      cases tooLong
    rw [List.cons_append, HasOverlong, occurs_cons_unwanted unwanted]
    exact inductionHypothesis (fun d member => free d (List.mem_cons_of_mem c member)) _ _

theorem Symbol.exists_token_eq_replicate (symbol : Symbol) :
    ∃ count, symbol.token = List.replicate (count + 1) symbol.letter ∧
      ∀ before, isOverlong before symbol.letter (count + 1) = false := by
  rcases symbol with (_ | _ | _ | _ | _ | _) | _ | _
  case field.year =>
    refine ⟨3, rfl, fun before => ?_⟩
    simp only [isOverlong, letter, Field.letter]
    split <;> rfl
  case field.monthName => exact ⟨3, rfl, fun _ => rfl⟩
  case field.paddedMonth => exact ⟨1, rfl, fun _ => rfl⟩
  case field.month => exact ⟨0, rfl, fun _ => rfl⟩
  case field.paddedDay => exact ⟨1, rfl, fun _ => rfl⟩
  case field.day => exact ⟨0, rfl, fun _ => rfl⟩
  case week => exact ⟨1, rfl, fun _ => rfl⟩
  case quarter => exact ⟨0, rfl, fun _ => rfl⟩

theorem Symbol.isBracket_letter (symbol : Symbol) : isBracket symbol.letter = false := by
  have table : ∀ c ∈ symbolLetters, isBracket c = false := by decide
  exact table _ symbol.letter_mem

namespace Layout

theorem source_symbol
    (found : Symbol)
    (rest : Layout) :
    source (.symbol found :: rest) = found.token ++ rest.source := rfl

theorem source_plain
    (text : Text)
    (rest : Layout) :
    source (.plain text :: rest) = text ++ rest.source := rfl

theorem source_literal
    (inner : Text)
    (rest : Layout) :
    source (.literal inner :: rest) = '[' :: (inner ++ ']' :: rest.source) :=
  spelled_literal Symbol.token inner rest

/-- A row goes on after a token with something else than the letter of that. -/
theorem Composed.head?_source_ne
    {found : Symbol}
    {rest : Layout}
    (composed : Composed (.symbol found :: rest)) :
    rest.source.head? ≠ some found.letter := by
  cases rest with
  | nil => simp [source]
  | cons segment rest =>
    have isComposed := composed.segments segment (by simp)
    have apart := (List.isChain_cons_cons.1 composed.neighbours).1
    cases segment with
    | symbol other =>
      obtain ⟨count, token, -⟩ := other.exists_token_eq_replicate
      rw [source_symbol, token, List.replicate_succ]
      simpa using Ne.symm apart
    | literal inner =>
      rw [source_literal]
      simpa using (found.letter_ne (by decide)).symm
    | plain text =>
      obtain ⟨c, others, rfl⟩ := List.exists_cons_of_ne_nil isComposed.1
      rw [source_plain]
      have other : found.letter ≠ c := found.letter_ne (isComposed.2 c List.mem_cons_self)
      simpa using other.symm

theorem not_hasOverlong_source
    {layout : Layout}
    (composed : layout.Composed)
    (before : Option Char)
    (isOpen : Bool) :
    ¬ HasOverlong before isOpen layout.source := by
  induction layout generalizing before isOpen with
  | nil => exact not_occurs_nil
  | cons segment rest inductionHypothesis =>
    have composedRest : Composed rest :=
      ⟨fun other member => composed.segments other (List.mem_cons_of_mem segment member),
        composed.neighbours.tail⟩
    have shortRest := inductionHypothesis composedRest
    have isComposed := composed.segments segment List.mem_cons_self
    cases segment with
    | symbol found =>
      obtain ⟨count, token, short⟩ := found.exists_token_eq_replicate
      rw [source_symbol, token,
        hasOverlong_replicate found.isBracket_letter short composed.head?_source_ne]
      exact shortRest _ _
    | literal inner =>
      have spared : ∀ c ∉ fieldLetters, ∀ (before : Option Char) after,
          ¬ (before ≠ some c ∧ isOverlong before c (runLength c (c :: after)) = true) := by
        rintro c other before after ⟨-, tooLong⟩
        rw [isOverlong_eq_false other] at tooLong
        cases tooLong
      have opens : openBehind isOpen '[' = true := by
        cases isOpen <;> rfl
      rw [source_literal, HasOverlong, occurs_cons_unwanted (spared '[' (by decide) before _), opens,
        occurs_inside isComposed (spared ']' (by decide))]
      exact shortRest _ _
    | plain text =>
      have letters : ∀ c ∈ fieldLetters, c ∈ symbolLetters := by decide
      rw [source_plain]
      exact not_hasOverlong_append
        (fun c member isField => isComposed.2 c member (letters c isField)) shortRest before isOpen

/-- In a pattern that is put together from tokens, literals and plain text, no run is too long. -/
theorem Composed.not_overlong
    {layout : Layout}
    (composed : layout.Composed) :
    ¬ Overlong layout.source := by
  rw [overlong_iff]
  exact not_hasOverlong_source composed none false

end Layout

end Daybook.Pattern
