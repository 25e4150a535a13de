import Daybook.Calendar.Date
import Daybook.Pattern.Piece
import Daybook.Proofs.Attempt
import Daybook.Text.Numeral
import Mathlib.Data.List.Chain
import Mathlib.Data.List.Infix

/-!
Contract: generic patterns as rows of segments, and the text that they stand for.

Owns:
- the generic tokens, and the segments of patterns: tokens, bracketed literals, plain text;
- the pattern that a row of segments spells;
- the rows that can be read in one way only;
- the text of a row for a date, segment by segment.

Does not own: how a pattern is prepared and scanned.
-/

namespace Daybook.Pattern

namespace Field

def letter : Field → Char
  | .year => 'Y'
  | .monthName | .paddedMonth | .month => 'M'
  | .paddedDay | .day => 'D'

/-- How often a field token repeats its letter. -/
def size : Field → Nat
  | .year | .monthName => 4
  | .paddedMonth | .paddedDay => 2
  | .month | .day => 1

def token (field : Field) : Text :=
  List.replicate field.size field.letter

end Field

/-- What a generic token stands for; the calendar is not said. -/
inductive Symbol where
  | field (field : Field)
  | week
  | quarter
  deriving DecidableEq, Repr

namespace Symbol

def letter : Symbol → Char
  | .field found => found.letter
  | .week => 'W'
  | .quarter => 'Q'

def token : Symbol → Text
  | .field found => found.token
  | .week => ['W', 'W']
  | .quarter => ['Q']

def isField : Symbol → Bool
  | .field _ => true
  | .week | .quarter => false

/-- The text of a token for a date.  A quarter that is given is written as it is, the quarter of the
date as its calendar writes numbers. -/
def text (locale : Locale) (date : Date) (quarter : Option Int) : Symbol → Except Fault Text
  | .field .year => do pure (date.digits locale (Text.padded 4 (← date.fields).year))
  | .field .monthName => date.monthName locale
  | .field .paddedMonth => do pure (date.digits locale (Text.padded 2 (← date.fields).month))
  | .field .month => do pure (date.digits locale (Text.ofNat (← date.fields).month))
  | .field .paddedDay => do pure (date.digits locale (Text.padded 2 (← date.fields).day))
  | .field .day => do pure (date.digits locale (Text.ofNat (← date.fields).day))
  | .week => do pure (date.digits locale (Text.padded 2 (← date.week)))
  | .quarter =>
    match quarter with
    | some given => .ok (Text.ofInt given)
    | none => do
      pure (date.digits locale (Text.ofNat (((← date.fields).month - 1) / 3 + 1)))

end Symbol

/-- What holds of every character of a text is decided along the text, and not by going through all
characters there are. -/
instance (priority := 2000) (property : Char → Prop) [DecidablePred property] (text : Text) :
    Decidable (∀ c ∈ text, property c) :=
  List.decidableBAll property text

/-- A segment of a generic pattern. -/
inductive Segment where
  | symbol (symbol : Symbol)
  | literal (inner : Text)
  | plain (text : Text)
  deriving DecidableEq, Repr

/-- The characters that mean something in a pattern. -/
def reserved : List Char :=
  ['Y', 'M', 'D', 'W', 'w', 'Q', '[', ']']

/-- The letters of field tokens. -/
def fieldLetters : List Char :=
  ['Y', 'M', 'D']

namespace Segment

/-- A segment as it is written, with the given spelling of tokens. -/
def spelled (spelling : Symbol → Text) : Segment → Text
  | .symbol found => spelling found
  | .literal inner => '[' :: inner ++ [']']
  | .plain text => text

/-- A literal holds no bracket, no week token, and no letter that the calendar marks; plain text is
not empty and holds no character with a meaning. -/
def IsSound (system : CalendarSystem) : Segment → Prop
  | .symbol _ => True
  | .literal inner =>
    '[' ∉ inner ∧ ']' ∉ inner ∧ ¬ ['W', 'W'] <:+: inner ∧
      (system = .solar → ∀ c ∈ inner, c ∉ fieldLetters)
  | .plain text => text ≠ [] ∧ ∀ c ∈ text, c ∉ reserved

/-- Which segment may stand directly before which: tokens of one letter would flow together, and the
solar calendar would take a plain `s` in front of a field for its mark. -/
def MayPrecede (system : CalendarSystem) : Segment → Segment → Prop
  | .symbol first, .symbol second => first.letter ≠ second.letter
  | .plain text, .symbol (.field _) => system = .solar → text.getLast? ≠ some solarMark
  | _, _ => True

def text (locale : Locale) (date : Date) (quarter : Option Int) : Segment → Except Fault Text
  | .symbol found => found.text locale date quarter
  | .literal inner => .ok inner
  | .plain text => .ok text

instance (system : CalendarSystem) : (segment : Segment) → Decidable (segment.IsSound system)
  | .symbol _ => inferInstanceAs (Decidable True)
  | .literal inner =>
    inferInstanceAs (Decidable ('[' ∉ inner ∧ ']' ∉ inner ∧ ¬ ['W', 'W'] <:+: inner ∧
      (system = .solar → ∀ c ∈ inner, c ∉ fieldLetters)))
  | .plain text => inferInstanceAs (Decidable (text ≠ [] ∧ ∀ c ∈ text, c ∉ reserved))

instance (system : CalendarSystem) (first second : Segment) :
    Decidable (first.MayPrecede system second) := by
  unfold MayPrecede
  split <;> infer_instance

end Segment

/-- A row of segments. -/
abbrev Layout := List Segment

namespace Layout

/-- The pattern that a row of segments spells, with the given spelling of tokens. -/
def spelled (spelling : Symbol → Text) (layout : Layout) : Text :=
  layout.flatMap (Segment.spelled spelling)

/-- The generic pattern of a row of segments. -/
def source (layout : Layout) : Text :=
  layout.spelled Symbol.token

/-- Every segment is sound, and every two neighbours may stand together. -/
structure WellFormed (system : CalendarSystem) (layout : Layout) : Prop where
  sound : ∀ segment ∈ layout, segment.IsSound system
  neighbours : layout.IsChain (Segment.MayPrecede system)

instance (system : CalendarSystem) (layout : Layout) : Decidable (layout.WellFormed system) :=
  decidable_of_iff
    ((∀ segment ∈ layout, segment.IsSound system) ∧ layout.IsChain (Segment.MayPrecede system))
    ⟨fun both => ⟨both.1, both.2⟩, fun wellFormed => ⟨wellFormed.sound, wellFormed.neighbours⟩⟩

/-- The text of a row of segments for a date, one segment after the other; the first one that fails
decides. -/
def text (locale : Locale) (date : Date) (quarter : Option Int) : Layout → Except Fault Text
  | [] => .ok []
  | segment :: rest => do
    let shown ← segment.text locale date quarter
    let following ← text locale date quarter rest
    pure (shown ++ following)

@[simp] theorem spelled_nil (spelling : Symbol → Text) : spelled spelling [] = [] := rfl

@[simp] theorem spelled_symbol
    (spelling : Symbol → Text)
    (found : Symbol)
    (rest : Layout) :
    spelled spelling (.symbol found :: rest) = spelling found ++ spelled spelling rest := rfl

@[simp] theorem spelled_literal
    (spelling : Symbol → Text)
    (inner : Text)
    (rest : Layout) :
    spelled spelling (.literal inner :: rest) =
      '[' :: (inner ++ ']' :: spelled spelling rest) := by
  simp [spelled, Segment.spelled]

@[simp] theorem spelled_plain
    (spelling : Symbol → Text)
    (text : Text)
    (rest : Layout) :
    spelled spelling (.plain text :: rest) = text ++ spelled spelling rest := rfl

section Written

variable
  {locale : Locale}
  {date : Date}
  {quarter : Option Int}

theorem text_cons_eq_ok_iff
    {segment : Segment}
    {rest : Layout}
    {shown : Text} :
    text locale date quarter (segment :: rest) = .ok shown ↔
      ∃ first following,
        segment.text locale date quarter = .ok first ∧
          rest.text locale date quarter = .ok following ∧
          first ++ following = shown := by
  simp only [text, Attempt.bind_eq_ok_iff, pure, Except.pure, Except.ok.injEq]
  constructor
  · rintro ⟨first, here, following, later, whole⟩
    exact ⟨first, following, here, later, whole⟩
  · rintro ⟨first, following, here, later, whole⟩
    exact ⟨first, here, following, later, whole⟩

theorem text_singleton
    {segment : Segment}
    {shown : Text}
    (written : segment.text locale date quarter = .ok shown) :
    text locale date quarter [segment] = .ok shown :=
  text_cons_eq_ok_iff.2 ⟨shown, [], written, rfl, List.append_nil shown⟩

theorem text_year
    {fields : DateFields}
    (found : date.fields = .ok fields) :
    Segment.text locale date quarter (.symbol (.field .year)) =
      .ok (date.digits locale (Text.padded 4 fields.year)) := by
  rw [Segment.text, Symbol.text, found]
  rfl

theorem text_paddedMonth
    {fields : DateFields}
    (found : date.fields = .ok fields) :
    Segment.text locale date quarter (.symbol (.field .paddedMonth)) =
      .ok (date.digits locale (Text.padded 2 fields.month)) := by
  rw [Segment.text, Symbol.text, found]
  rfl

theorem text_append
    {first second : Layout}
    {firstText secondText : Text}
    (firstWritten : first.text locale date quarter = .ok firstText)
    (secondWritten : second.text locale date quarter = .ok secondText) :
    text locale date quarter (first ++ second) = .ok (firstText ++ secondText) := by
  induction first generalizing firstText with
  | nil =>
    cases firstWritten
    exact secondWritten
  | cons segment rest inductionHypothesis =>
    obtain ⟨shown, following, here, later, rfl⟩ := text_cons_eq_ok_iff.1 firstWritten
    rw [List.append_assoc]
    exact text_cons_eq_ok_iff.2 ⟨shown, _, here, inductionHypothesis later, rfl⟩

end Written

end Layout

end Daybook.Pattern
