import Daybook.Proofs.Calendar.Date
import Daybook.Proofs.Path.Recovery
import Daybook.Proofs.Pattern.Spelling
import Daybook.Proofs.Text.Numeral

/-!
Contract: patterns that show a year, a month and a day in this order.

Owns:
- rows of literals and plain text without figures;
- the patterns of a whole date, and the joints that keep them readable;
- the row of segments of such a pattern inside other text, which is well formed;
- the text of that row for a date.

Does not own: how the text is put into a path or found in one.
-/

namespace Daybook

open Pattern

namespace Pattern

/-! ### Rows without tokens -/

/-- Whether a text means nothing, neither to a pattern nor to the search for a date. -/
def IsQuietText (text : Text) : Prop :=
  ∀ c ∈ text, c ∉ reserved ∧ Text.isFigure c = false

/-- Whether a segment shows nothing of the date, and nothing that looks like a date. -/
def Segment.IsQuiet : Segment → Prop
  | .symbol _ => False
  | .literal inner => IsQuietText inner
  | .plain text => text ≠ [] ∧ IsQuietText text

/-- Whether a row consists of quiet segments. -/
def Layout.IsQuiet (layout : Layout) : Prop :=
  ∀ segment ∈ layout, segment.IsQuiet

instance (text : Text) : Decidable (IsQuietText text) :=
  inferInstanceAs (Decidable (∀ c ∈ text, c ∉ reserved ∧ Text.isFigure c = false))

instance : (segment : Segment) → Decidable segment.IsQuiet
  | .symbol _ => inferInstanceAs (Decidable False)
  | .literal inner => inferInstanceAs (Decidable (IsQuietText inner))
  | .plain text => inferInstanceAs (Decidable (text ≠ [] ∧ IsQuietText text))

instance (layout : Layout) : Decidable layout.IsQuiet :=
  inferInstanceAs (Decidable (∀ segment ∈ layout, segment.IsQuiet))

theorem Segment.IsQuiet.isSound
    {segment : Segment}
    (quiet : segment.IsQuiet)
    (system : CalendarSystem) :
    segment.IsSound system := by
  cases segment with
  | symbol found => exact absurd quiet id
  | literal inner =>
    refine ⟨?_, ?_, ?_, ?_⟩
    · intro member
      exact (quiet _ member).1 (by decide)
    · intro member
      exact (quiet _ member).1 (by decide)
    · intro inside
      exact (quiet 'W' (inside.subset (by decide))).1 (by decide)
    · intro _ c member letter
      exact not_mem_fieldLetters_of_not_mem_reserved (quiet c member).1 letter
  | plain text => exact ⟨quiet.1, fun c member => (quiet.2 c member).1⟩

theorem Segment.mayPrecede_quiet
    (system : CalendarSystem)
    (first : Segment)
    {second : Segment}
    (quiet : second.IsQuiet) :
    first.MayPrecede system second := by
  cases second with
  | symbol found => exact absurd quiet id
  | literal inner => cases first <;> trivial
  | plain text => cases first <;> trivial

theorem Layout.IsQuiet.isChain
    {layout : Layout}
    (quiet : layout.IsQuiet)
    (system : CalendarSystem) :
    layout.IsChain (Segment.MayPrecede system) := by
  induction layout with
  | nil => exact .nil
  | cons segment rest inductionHypothesis =>
    have quietRest : IsQuiet rest := fun other member => quiet other (List.mem_cons_of_mem _ member)
    refine List.IsChain.cons (inductionHypothesis quietRest) ?_
    intro other head
    exact Segment.mayPrecede_quiet system segment (quietRest other (List.mem_of_mem_head? head))

/-- A quiet row has the same quiet text for every date. -/
theorem Layout.IsQuiet.exists_text
    {layout : Layout}
    (quiet : layout.IsQuiet)
    (locale : Locale)
    (date : Date)
    (quarter : Option Int) :
    ∃ shown, layout.text locale date quarter = .ok shown ∧ IsQuietText shown := by
  induction layout with
  | nil => exact ⟨[], rfl, fun c member => absurd member List.not_mem_nil⟩
  | cons segment rest inductionHypothesis =>
    obtain ⟨following, written, quietFollowing⟩ :=
      inductionHypothesis fun other member => quiet other (List.mem_cons_of_mem _ member)
    have quietSegment := quiet segment List.mem_cons_self
    obtain ⟨shown, here, quietShown⟩ :
        ∃ shown, segment.text locale date quarter = .ok shown ∧ IsQuietText shown := by
      cases segment with
      | symbol found => exact absurd quietSegment id
      | literal inner => exact ⟨inner, rfl, quietSegment⟩
      | plain text => exact ⟨text, rfl, quietSegment.2⟩
    refine ⟨shown ++ following, ?_, ?_⟩
    · rw [text, here, written]
      rfl
    · intro c member
      rcases List.mem_append.1 member with early | late
      · exact quietShown c early
      · exact quietFollowing c late

end Pattern

/-! ### Patterns of whole dates -/

/-- How a pattern shows a whole date: what stands between the parts, and whether month and day are
padded.  A month that is not padded has to be kept apart from the day. -/
structure DayPattern where
  first : Path.Joint
  padsMonth : Bool
  second : Path.Joint
  padsDay : Bool
  apart : padsMonth = true ∨ second ≠ .nothing

namespace DayPattern

def source (pattern : DayPattern) : Text :=
  ['Y', 'Y', 'Y', 'Y'] ++ (pattern.first.text ++
    ((if pattern.padsMonth then ['M', 'M'] else ['M']) ++ (pattern.second.text ++
      (if pattern.padsDay then ['D', 'D'] else ['D']))))

/-- A number as the pattern shows it. -/
def shownNumber (pads : Bool) (n : Nat) : Text :=
  if pads then Text.padded 2 n else Text.ofNat n

/-- The text of the pattern for a date with the given fields. -/
def shown (pattern : DayPattern) (locale : Locale) (date : Date) (fields : DateFields) : Text :=
  date.digits locale (Text.padded 4 fields.year) ++ (pattern.first.text ++
    (date.digits locale (shownNumber pattern.padsMonth fields.month) ++ (pattern.second.text ++
      date.digits locale (shownNumber pattern.padsDay fields.day))))

def jointLayout : Path.Joint → Layout
  | .nothing => []
  | .slash => [.plain ['/']]
  | .dash => [.plain ['-']]

def layout (pattern : DayPattern) : Layout :=
  .symbol (.field .year) :: (jointLayout pattern.first ++
    .symbol (.field (if pattern.padsMonth then .paddedMonth else .month)) ::
      (jointLayout pattern.second ++
        [.symbol (.field (if pattern.padsDay then .paddedDay else .day))]))

theorem source_layout (pattern : DayPattern) : pattern.layout.source = pattern.source := by
  obtain ⟨first, padsMonth, second, padsDay, -⟩ := pattern
  cases first <;> cases padsMonth <;> cases second <;> cases padsDay <;> rfl

theorem sound_layout
    (pattern : DayPattern)
    (system : CalendarSystem) :
    ∀ segment ∈ pattern.layout, segment.IsSound system := by
  have soundJoint : ∀ joint, ∀ segment ∈ jointLayout joint, segment.IsSound system := by
    intro joint segment member
    cases joint with
    | nothing => exact absurd member List.not_mem_nil
    | slash =>
      cases List.mem_singleton.1 member
      exact ⟨List.cons_ne_nil _ _, by decide⟩
    | dash =>
      cases List.mem_singleton.1 member
      exact ⟨List.cons_ne_nil _ _, by decide⟩
  intro segment member
  simp only [layout, List.mem_cons, List.mem_append, List.not_mem_nil, or_false] at member
  rcases member with rfl | first | rfl | second | rfl
  · trivial
  · exact soundJoint pattern.first segment first
  · trivial
  · exact soundJoint pattern.second segment second
  · trivial

/-- Tokens of two letters stand together, with a joint or without. -/
theorem isChain_joint
    (joint : Path.Joint)
    {system : CalendarSystem}
    {first second : Field}
    {rest : Layout}
    (otherLetter : first.letter ≠ second.letter)
    (later : (Segment.symbol (.field second) :: rest).IsChain (Segment.MayPrecede system)) :
    (Segment.symbol (.field first) :: (jointLayout joint ++ .symbol (.field second) :: rest)).IsChain
      (Segment.MayPrecede system) := by
  cases joint with
  | nothing => exact .cons_cons otherLetter later
  | slash => exact .cons_cons trivial (.cons_cons (fun _ => by decide) later)
  | dash => exact .cons_cons trivial (.cons_cons (fun _ => by decide) later)

theorem isChain_layout_append
    (pattern : DayPattern)
    (system : CalendarSystem)
    {back : Layout}
    (quiet : back.IsQuiet) :
    (pattern.layout ++ back).IsChain (Segment.MayPrecede system) := by
  have yearMonth : Field.year.letter ≠
      (if pattern.padsMonth then Field.paddedMonth else .month).letter := by
    split <;> decide
  have monthDay : (if pattern.padsMonth then Field.paddedMonth else .month).letter ≠
      (if pattern.padsDay then Field.paddedDay else .day).letter := by
    split <;> split <;> decide
  simp only [layout, List.cons_append, List.append_assoc, List.nil_append]
  refine isChain_joint pattern.first yearMonth (isChain_joint pattern.second monthDay ?_)
  refine List.IsChain.cons (quiet.isChain system) ?_
  intro segment head
  exact Segment.mayPrecede_quiet system _ (quiet segment (List.mem_of_mem_head? head))

theorem mayPrecede_year
    {system : CalendarSystem}
    {front : Layout}
    (quiet : front.IsQuiet)
    (unmarked : system = .solar → front.source.getLast? ≠ some solarMark)
    {last : Segment}
    (isLast : last ∈ front.getLast?) :
    last.MayPrecede system (.symbol (.field .year)) := by
  obtain ⟨before, rfl⟩ := List.getLast?_eq_some_iff.1 isLast
  have quietLast := quiet last (List.mem_append_right before List.mem_cons_self)
  cases last with
  | symbol found => exact absurd quietLast id
  | literal inner => trivial
  | plain text =>
    intro solar ends
    apply unmarked solar
    have source : Layout.source (before ++ [.plain text]) = Layout.source before ++ text := by
      simp [Layout.source, Layout.spelled, Segment.spelled]
    rw [source, List.getLast?_append, ends]
    rfl

/-- A pattern of a date is well formed inside quiet rows, if no plain `s` stands in front of it. -/
theorem wellFormed_around
    (pattern : DayPattern)
    {system : CalendarSystem}
    {front back : Layout}
    (quietFront : front.IsQuiet)
    (quietBack : back.IsQuiet)
    (unmarked : system = .solar → front.source.getLast? ≠ some solarMark) :
    (front ++ (pattern.layout ++ back)).WellFormed system where
  sound := by
    intro segment member
    rcases List.mem_append.1 member with inFront | later
    · exact (quietFront segment inFront).isSound system
    · rcases List.mem_append.1 later with inside | inBack
      · exact pattern.sound_layout system segment inside
      · exact (quietBack segment inBack).isSound system
  neighbours := by
    refine List.isChain_append.2
      ⟨quietFront.isChain system, pattern.isChain_layout_append system quietBack, ?_⟩
    intro last isLast first isFirst
    cases isFirst
    exact mayPrecede_year quietFront unmarked isLast

theorem text_layout
    (pattern : DayPattern)
    (locale : Locale)
    {date : Date}
    {fields : DateFields}
    (found : date.fields = .ok fields)
    (quarter : Option Int) :
    pattern.layout.text locale date quarter = .ok (pattern.shown locale date fields) := by
  have writtenJoint : ∀ joint, (jointLayout joint).text locale date quarter = .ok joint.text := by
    intro joint
    cases joint <;> rfl
  have writtenMonth :
      Layout.text locale date quarter
          [.symbol (.field (if pattern.padsMonth then .paddedMonth else .month))] =
        .ok (date.digits locale (shownNumber pattern.padsMonth fields.month)) := by
    apply Layout.text_singleton
    cases pattern.padsMonth
    · show Symbol.text locale date quarter (.field .month) = _
      rw [Symbol.text, found]
      rfl
    · exact Layout.text_paddedMonth found
  have writtenDay :
      Layout.text locale date quarter
          [.symbol (.field (if pattern.padsDay then .paddedDay else .day))] =
        .ok (date.digits locale (shownNumber pattern.padsDay fields.day)) := by
    apply Layout.text_singleton
    cases pattern.padsDay
    · show Symbol.text locale date quarter (.field .day) = _
      rw [Symbol.text, found]
      rfl
    · show Symbol.text locale date quarter (.field .paddedDay) = _
      rw [Symbol.text, found]
      rfl
  exact Layout.text_append (Layout.text_singleton (Layout.text_year found))
    (Layout.text_append (writtenJoint pattern.first)
      (Layout.text_append writtenMonth
        (Layout.text_append (writtenJoint pattern.second) writtenDay)))

end DayPattern

end Daybook
