import Daybook.Proofs.Pattern.Layout
import Daybook.Proofs.Pattern.Runs

/-!
Contract: preparing a row of segments respells its tokens and leaves all else alone.

Owns:
- the condition on what stands before a row of segments, which carries all inductions on rows;
- the spelling of tokens after each step of the preparation, and after all of them.

Does not own: how a prepared pattern is read, or patterns that are no well-formed rows.
-/

namespace Daybook.Pattern

/-- A row of segments that can be read as such after the given character: every token stands apart
from its own letter, and for the solar calendar every field stands apart from the mark. -/
inductive Readable (system : CalendarSystem) : Option Char → Layout → Prop where
  | nil {before : Option Char} : Readable system before []
  | symbol {before : Option Char} {found : Symbol} {rest : Layout}
      (apart : before ≠ some found.letter)
      (unmarked : system = .solar → found.isField = true → before ≠ some solarMark)
      (following : Readable system (some found.letter) rest) :
      Readable system before (.symbol found :: rest)
  | literal {before : Option Char} {inner : Text} {rest : Layout}
      (sound : (Segment.literal inner).IsSound system)
      (following : Readable system (some ']') rest) :
      Readable system before (.literal inner :: rest)
  | plain {before : Option Char} {text : Text} {rest : Layout}
      (sound : (Segment.plain text).IsSound system)
      (following : Readable system text.getLast? rest) :
      Readable system before (.plain text :: rest)

/-! ### Well-formed rows are readable -/

private def lastOf : Segment → Option Char
  | .symbol found => some found.letter
  | .literal _ => some ']'
  | .plain text => text.getLast?

/-- The letters of generic tokens. -/
def symbolLetters : List Char :=
  ['Y', 'M', 'D', 'W', 'Q']

theorem Symbol.letter_mem (symbol : Symbol) : symbol.letter ∈ symbolLetters := by
  rcases symbol with (field | _ | _)
  · cases field <;> decide
  · decide
  · decide

theorem Symbol.letter_ne
    (symbol : Symbol)
    {c : Char}
    (other : c ∉ symbolLetters) :
    symbol.letter ≠ c := by
  intro same
  exact other (same ▸ symbol.letter_mem)

theorem Symbol.letter_mem_reserved (symbol : Symbol) : symbol.letter ∈ reserved := by
  have subset : ∀ c ∈ symbolLetters, c ∈ reserved := by decide
  exact subset _ symbol.letter_mem

private theorem lastOf_ne_letter
    {system : CalendarSystem}
    {previous : Segment}
    {symbol : Symbol}
    (sound : previous.IsSound system)
    (joined : previous.MayPrecede system (.symbol symbol)) :
    lastOf previous ≠ some symbol.letter := by
  cases previous with
  | symbol first =>
    intro same
    exact joined (Option.some.inj same)
  | literal inner =>
    intro same
    exact symbol.letter_ne (by decide) (Option.some.inj same).symm
  | plain text =>
    intro same
    exact sound.2 _ (List.mem_of_getLast? same) symbol.letter_mem_reserved

private theorem lastOf_ne_mark
    {system : CalendarSystem}
    {previous : Segment}
    {symbol : Symbol}
    (joined : previous.MayPrecede system (.symbol symbol))
    (isSolar : system = .solar)
    (isField : symbol.isField = true) :
    lastOf previous ≠ some solarMark := by
  cases previous with
  | symbol first =>
    intro same
    exact first.letter_ne (by decide) (Option.some.inj same)
  | literal inner =>
    intro same
    exact absurd (Option.some.inj same) (by decide)
  | plain text =>
    cases symbol with
    | field found => exact joined isSolar
    | week => cases isField
    | quarter => cases isField

private theorem readable_after
    {system : CalendarSystem}
    (layout : Layout)
    (previous : Segment)
    (wellFormed : Layout.WellFormed system (previous :: layout)) :
    Readable system (lastOf previous) layout := by
  induction layout generalizing previous with
  | nil => exact .nil
  | cons segment rest inductionHypothesis =>
    have joined := (List.isChain_cons_cons.1 wellFormed.neighbours).1
    have remaining : Layout.WellFormed system (segment :: rest) :=
      ⟨fun other member => wellFormed.sound other (List.mem_cons_of_mem previous member),
        (List.isChain_cons_cons.1 wellFormed.neighbours).2⟩
    have sound := remaining.sound segment List.mem_cons_self
    have following := inductionHypothesis segment remaining
    cases segment with
    | symbol found =>
      have previousSound := wellFormed.sound previous List.mem_cons_self
      exact .symbol (lastOf_ne_letter previousSound joined) (lastOf_ne_mark joined) following
    | literal inner => exact .literal sound following
    | plain text => exact .plain sound following

theorem Layout.WellFormed.readable
    {system : CalendarSystem}
    {layout : Layout}
    (wellFormed : layout.WellFormed system) :
    Readable system none layout := by
  cases layout with
  | nil => exact .nil
  | cons segment rest =>
    have sound := wellFormed.sound segment List.mem_cons_self
    have following := readable_after rest segment wellFormed
    cases segment with
    | symbol found => exact .symbol (by simp) (by simp) following
    | literal inner => exact .literal sound following
    | plain text => exact .plain sound following

/-! ### Marking -/

/-- The spelling of tokens once a calendar has marked its fields. -/
def Symbol.marked (system : CalendarSystem) : Symbol → Text
  | .field found =>
    match system with
    | .solar => solarMark :: found.token
    | .gregorian => found.token
  | .week => ['W', 'W']
  | .quarter => ['Q']

theorem isSolarRun_of_not_mem
    {c : Char}
    (other : c ∉ fieldLetters)
    (size : Nat) :
    isSolarRun c size = false := by
  simp only [fieldLetters, List.mem_cons, List.not_mem_nil, or_false, not_or] at other
  simp [isSolarRun, solarTokens, solarRules, solarLetters, RunRule.chooses, other]

theorem Field.isSolarRun_token (field : Field) : isSolarRun field.letter field.size = true := by
  cases field <;> decide

theorem not_mem_fieldLetters_of_not_mem_reserved
    {c : Char}
    (other : c ∉ reserved) :
    c ∉ fieldLetters :=
  fun member => other (List.mem_append_left ['W', 'w', 'Q', '[', ']'] member)

/-- After a letter, a readable row does not go on with the same letter. -/
theorem head?_spelled_token_ne
    {system : CalendarSystem}
    {symbol : Symbol}
    {layout : Layout}
    (readable : Readable system (some symbol.letter) layout) :
    (layout.spelled Symbol.token).head? ≠ some symbol.letter := by
  have reservedLetter := symbol.letter_mem_reserved
  cases readable with
  | nil => simp
  | @symbol _ found rest apart =>
    have first : (found.token ++ Layout.spelled Symbol.token rest).head? = some found.letter := by
      rcases found with (field | _ | _)
      · cases field <;> rfl
      · rfl
      · rfl
    rw [Layout.spelled_symbol, first]
    exact apart.symm
  | literal =>
    intro same
    exact symbol.letter_ne (by decide) (Option.some.inj same).symm
  | @plain _ text rest sound =>
    obtain ⟨first, others, rfl⟩ := List.exists_cons_of_ne_nil sound.1
    intro same
    have letter : first = symbol.letter := by simpa using same
    exact sound.2 first List.mem_cons_self (letter ▸ reservedLetter)

private theorem markRunsAfter_source
    {before : Option Char}
    {layout : Layout}
    (readable : Readable .solar before layout) :
    markRunsAfter isSolarRun before (layout.spelled Symbol.token) =
      layout.spelled (Symbol.marked .solar) := by
  -- The induction follows the reading: `before` is the last character of the segment in front.
  induction readable with
  | nil => rfl
  | @symbol before found rest apart unmarked following inductionHypothesis =>
    rw [Layout.spelled_symbol, Layout.spelled_symbol]
    cases found with
    | field field =>
      have positive : 0 < field.size := by cases field <;> decide
      -- The token is the whole run, since what follows it opens with another letter.
      have stops := head?_spelled_token_ne following
      have marks : before ≠ some solarMark ∧ isSolarRun field.letter field.size = true :=
        ⟨unmarked rfl rfl, field.isSolarRun_token⟩
      refine (markRunsAfter_replicate isSolarRun positive apart stops).trans ?_
      rw [inductionHypothesis]
      exact congrArg (· ++ _ ++ _) (if_pos marks)
    | week =>
      rw [Symbol.token, markRunsAfter_append isSolarRun before _
        (fun c member => isSolarRun_of_not_mem (by revert c; decide))]
      exact congrArg (['W', 'W'] ++ ·) inductionHypothesis
    | quarter =>
      rw [Symbol.token, markRunsAfter_append isSolarRun before _
        (fun c member => isSolarRun_of_not_mem (by revert c; decide))]
      exact congrArg (['Q'] ++ ·) inductionHypothesis
  | @literal before inner rest sound following inductionHypothesis =>
    have spared : ∀ c ∈ '[' :: inner ++ [']'], ∀ size, isSolarRun c size = false := by
      intro c member
      apply isSolarRun_of_not_mem
      simp only [List.cons_append, List.mem_cons, List.mem_append, List.not_mem_nil, or_false]
        at member
      rcases member with rfl | inside | rfl
      · decide
      · exact sound.2.2.2 rfl c inside
      · decide
    have last : ('[' :: inner ++ [']']).getLast?.or before = some ']' := by
      rw [List.getLast?_append]
      rfl
    have copied := markRunsAfter_append isSolarRun before (rest.spelled Symbol.token) spared
    rw [last, inductionHypothesis] at copied
    simpa using copied
  | @plain before text rest sound following inductionHypothesis =>
    have spared : ∀ c ∈ text, ∀ size, isSolarRun c size = false := fun c member =>
      isSolarRun_of_not_mem (not_mem_fieldLetters_of_not_mem_reserved (sound.2 c member))
    have last : text.getLast?.or before = text.getLast? := by
      rw [List.getLast?_eq_some_getLast sound.1]
      rfl
    rw [Layout.spelled_plain, Layout.spelled_plain,
      markRunsAfter_append isSolarRun before _ spared, last, inductionHypothesis]

/-- Marking a readable row marks its fields and nothing else. -/
theorem mark_source
    {system : CalendarSystem}
    {layout : Layout}
    (readable : Readable system none layout) :
    mark system layout.source = layout.spelled (Symbol.marked system) := by
  cases system with
  | solar =>
    rw [mark_solar]
    exact markRunsAfter_source readable
  | gregorian =>
    have same : Symbol.token = Symbol.marked .gregorian := by
      funext symbol
      cases symbol <;> rfl
    rw [mark, Layout.source, same]

/-! ### Weeks -/

/-- The spelling of tokens once the weeks are written small. -/
def Symbol.lowered (system : CalendarSystem) : Symbol → Text
  | .field found => Symbol.marked system (.field found)
  | .week => ['w', 'w']
  | .quarter => ['Q']

theorem lowerWeeks_cons
    {c : Char}
    (other : c ≠ 'W')
    (rest : Text) :
    lowerWeeks (c :: rest) = c :: lowerWeeks rest := by
  rw [lowerWeeks]
  intro _ same _
  exact other same

theorem lowerWeeks_append
    {text : Text}
    (without : 'W' ∉ text)
    (rest : Text) :
    lowerWeeks (text ++ rest) = text ++ lowerWeeks rest := by
  induction text with
  | nil => rfl
  | cons c text inductionHypothesis =>
    have parts := List.ne_and_not_mem_of_not_mem_cons without
    rw [List.cons_append, lowerWeeks_cons (Ne.symm parts.1), inductionHypothesis parts.2,
      List.cons_append]

/-- Single week letters stay as they are, if no more of them can follow. -/
theorem lowerWeeks_append_closed
    {inner : Text}
    (single : ¬ ['W', 'W'] <:+: inner)
    (rest : Text) :
    lowerWeeks (inner ++ ']' :: rest) = inner ++ ']' :: lowerWeeks rest := by
  induction inner with
  | nil => exact lowerWeeks_cons (by decide) rest
  | cons c inner inductionHypothesis =>
    have remaining : ¬ ['W', 'W'] <:+: inner := mt List.infix_cons single
    rw [List.cons_append, List.cons_append, ← inductionHypothesis remaining, lowerWeeks]
    rintro following rfl starts
    -- The bracket keeps the last letter of the literal from a week letter after it.
    cases inner with
    | nil => exact absurd (List.cons.inj starts).1 (by decide)
    | cons next inner =>
      have letter : next = 'W' := (List.cons.inj starts).1
      subst letter
      exact single (List.prefix_append ['W', 'W'] inner).isInfix

private theorem week_not_mem_marked (system : CalendarSystem) (field : Field) :
    'W' ∉ Symbol.marked system (.field field) := by
  cases system <;> cases field <;> decide

theorem lowerWeeks_marked
    {system : CalendarSystem}
    {before : Option Char}
    {layout : Layout}
    (readable : Readable system before layout) :
    lowerWeeks (layout.spelled (Symbol.marked system)) =
      layout.spelled (Symbol.lowered system) := by
  induction readable with
  | nil => rfl
  | @symbol before found rest apart unmarked following inductionHypothesis =>
    rw [Layout.spelled_symbol, Layout.spelled_symbol, ← inductionHypothesis]
    rcases found with (field | _ | _)
    · exact lowerWeeks_append (week_not_mem_marked system field) _
    · rfl
    · exact lowerWeeks_cons (by decide) _
  | @literal before inner rest sound following inductionHypothesis =>
    rw [Layout.spelled_literal, Layout.spelled_literal, ← inductionHypothesis,
      lowerWeeks_cons (by decide), lowerWeeks_append_closed sound.2.2.1]
  | @plain before text rest sound following inductionHypothesis =>
    have without : 'W' ∉ text := fun member => sound.2 'W' member (by decide)
    rw [Layout.spelled_plain, Layout.spelled_plain, lowerWeeks_append without,
      inductionHypothesis]

/-! ### Quarters -/

/-- The spelling of tokens in a prepared pattern. -/
def Symbol.prepared (system : CalendarSystem) (quarter : Option Int) : Symbol → Text
  | .field found => Symbol.marked system (.field found)
  | .week => ['w', 'w']
  | .quarter =>
    match quarter with
    | some given => Text.ofInt given
    | none => ['Q']

/-- Outside brackets, and also inside, what is neither a bracket nor a quarter token stays. -/
theorem substituteQuarterAt_append
    (digits : Text)
    (depth : Nat)
    {text : Text}
    (rest : Text)
    (flat : ∀ c ∈ text, c ≠ '[' ∧ c ≠ ']' ∧ (c = 'Q' → depth ≠ 0)) :
    substituteQuarterAt digits depth (text ++ rest) =
      text ++ substituteQuarterAt digits depth rest := by
  induction text with
  | nil => rfl
  | cons c text inductionHypothesis =>
    obtain ⟨notOpening, notClosing, inside⟩ := flat c List.mem_cons_self
    have remaining := inductionHypothesis fun other member =>
      flat other (List.mem_cons_of_mem c member)
    have kept : ¬ (c = 'Q' ∧ depth = 0) := fun both => inside both.1 both.2
    rw [List.cons_append, substituteQuarterAt, if_neg notOpening, if_neg notClosing, if_neg kept,
      remaining, List.cons_append]

theorem substituteQuarterAt_literal
    (digits : Text)
    {inner : Text}
    (rest : Text)
    (opening : '[' ∉ inner)
    (closing : ']' ∉ inner) :
    substituteQuarterAt digits 0 ('[' :: (inner ++ ']' :: rest)) =
      '[' :: (inner ++ ']' :: substituteQuarterAt digits 0 rest) := by
  have inside : ∀ c ∈ inner, c ≠ '[' ∧ c ≠ ']' ∧ (c = 'Q' → 0 + 1 ≠ 0) := by
    intro c member
    exact ⟨fun same => opening (same ▸ member), fun same => closing (same ▸ member),
      fun _ => Nat.one_ne_zero⟩
  rw [substituteQuarterAt, if_pos rfl, substituteQuarterAt_append digits (0 + 1) _ inside,
    substituteQuarterAt, if_neg (by decide), if_pos rfl]

private theorem flat_marked (system : CalendarSystem) (field : Field) :
    ∀ c ∈ Symbol.marked system (.field field), c ≠ '[' ∧ c ≠ ']' ∧ (c = 'Q' → 0 ≠ 0) := by
  cases system <;> cases field <;> decide

theorem substituteQuarter_lowered
    {system : CalendarSystem}
    {before : Option Char}
    {layout : Layout}
    (given : Int)
    (readable : Readable system before layout) :
    substituteQuarter given (layout.spelled (Symbol.lowered system)) =
      layout.spelled (Symbol.prepared system (some given)) := by
  unfold substituteQuarter
  -- Every segment closes the brackets that it opens, so that the next one starts at depth zero.
  induction readable with
  | nil => rfl
  | @symbol before found rest apart unmarked following inductionHypothesis =>
    rw [Layout.spelled_symbol, Layout.spelled_symbol, ← inductionHypothesis]
    rcases found with (field | _ | _)
    · exact substituteQuarterAt_append _ 0 _ (flat_marked system field)
    · rfl
    · rfl
  | @literal before inner rest sound following inductionHypothesis =>
    rw [Layout.spelled_literal, Layout.spelled_literal,
      substituteQuarterAt_literal _ _ sound.1 sound.2.1, inductionHypothesis]
  | @plain before text rest sound following inductionHypothesis =>
    have flat : ∀ c ∈ text, c ≠ '[' ∧ c ≠ ']' ∧ (c = 'Q' → 0 ≠ 0) := by
      intro c member
      have free := sound.2 c member
      refine ⟨?_, ?_, ?_⟩ <;> rintro rfl
      · exact absurd (by decide) free
      · exact absurd (by decide) free
      · exact absurd (by decide) free
    rw [Layout.spelled_plain, Layout.spelled_plain, substituteQuarterAt_append _ 0 _ flat,
      inductionHypothesis]

/-- Preparing the pattern of a well-formed row respells its tokens. -/
theorem prepare_source
    {system : CalendarSystem}
    {layout : Layout}
    (quarter : Option Int)
    (wellFormed : layout.WellFormed system) :
    prepare system quarter layout.source = layout.spelled (Symbol.prepared system quarter) := by
  have readable := wellFormed.readable
  unfold prepare
  rw [mark_source readable, lowerWeeks_marked readable]
  cases quarter with
  | some given => exact substituteQuarter_lowered given readable
  | none =>
    have same : Symbol.lowered system = Symbol.prepared system none := by
      funext symbol
      cases symbol <;> rfl
    rw [same]

end Daybook.Pattern
