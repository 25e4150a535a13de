import Daybook.Proofs.Pattern.SolarFields
import Mathlib.Data.List.Chain
import Mathlib.Data.List.Infix

/-!
Contract: patterns in which separators stand apart, and what the preparation leaves of that.

Owns:
- respelling that goes around separators and brackets, and the place of what stays;
- patterns whose separators stand apart, prepared and unprepared.

Does not own: the texts that pieces are replaced by.
-/

namespace Daybook.Pattern

/-! ### Respelling around markup -/

namespace Respelled

variable {isMarkup : Char → Bool} {text other : Text}

theorem length_le (respelled : Respelled isMarkup text other) : other.length ≤ text.length := by
  induction respelled with
  | nil => exact Nat.le_refl 0
  | same c _ inductionHypothesis => exact Nat.succ_le_succ inductionHypothesis
  | replaced nonempty _ _ _ inductionHypothesis =>
    have given := List.length_pos_of_ne_nil nonempty
    simp only [List.length_append, List.length_cons]
    omega

theorem eq_nil (respelled : Respelled isMarkup [] other) : other = [] :=
  List.length_eq_zero_iff.1 (Nat.le_zero.1 respelled.length_le)

/-- What takes no notice of characters that are no markup takes none of respelling. -/
theorem foldl_eq
    {σ : Type}
    {step : σ → Char → σ}
    (ignores : ∀ state c, isMarkup c = false → step state c = state)
    (respelled : Respelled isMarkup text other)
    (state : σ) :
    text.foldl step state = other.foldl step state := by
  have skips : ∀ (replacement : Text) (state : σ), (∀ d ∈ replacement, isMarkup d = false) →
      replacement.foldl step state = state := by
    intro replacement state unread
    induction replacement with
    | nil => rfl
    | cons d replacement inductionHypothesis =>
      rw [List.foldl_cons, ignores state d (unread d List.mem_cons_self)]
      exact inductionHypothesis fun e member => unread e (List.mem_cons_of_mem d member)
  induction respelled generalizing state with
  | nil => rfl
  | same c _ inductionHypothesis => exact inductionHypothesis (step state c)
  | replaced _ unread unreadBefore _ inductionHypothesis =>
    rw [List.foldl_append, List.foldl_cons, skips _ state unread, ignores state _ unreadBefore]
    exact inductionHypothesis state

/-- Markup of a respelled text stood between the texts that what is around it was respelled from. -/
theorem exists_split
    (respelled : Respelled isMarkup text other)
    {before after : Text}
    {c : Char}
    (isRead : isMarkup c = true)
    (equal : text = before ++ c :: after) :
    ∃ front back, other = front ++ c :: back ∧
      Respelled isMarkup before front ∧ Respelled isMarkup after back := by
  induction respelled generalizing before with
  | nil => exact absurd equal.symm (List.append_ne_nil_of_right_ne_nil before (by simp))
  | @same text other d following inductionHypothesis =>
    cases before with
    | nil =>
      cases equal
      exact ⟨[], other, rfl, .nil, following⟩
    | cons first before =>
      cases equal
      obtain ⟨front, back, rfl, ahead, behind⟩ := inductionHypothesis rfl
      exact ⟨d :: front, back, rfl, .same d ahead, behind⟩
  | @replaced text other replacement d nonempty unread unreadBefore _ inductionHypothesis =>
    have absent : c ∉ replacement := by
      intro member
      rw [unread c member] at isRead
      cases isRead
    -- The markup is none of the replacement, so all of that stands before it.
    obtain ⟨rest, rfl, rfl⟩ : ∃ rest, before = replacement ++ rest ∧ text = rest ++ c :: after := by
      rcases List.append_eq_append_iff.1 equal with ⟨rest, begins, remains⟩ | ⟨rest, begins, remains⟩
      · exact ⟨rest, begins, remains⟩
      · cases rest with
        | nil => exact ⟨[], by simpa using begins.symm, by simpa using remains.symm⟩
        | cons e rest =>
          cases remains
          rw [begins] at absent
          exact absurd (by simp) absent
    obtain ⟨front, back, rfl, ahead, behind⟩ := inductionHypothesis rfl
    exact ⟨d :: front, back, rfl, .replaced nonempty unread unreadBefore ahead, behind⟩

end Respelled

/-! ### Separators that stand apart -/

/-- Whether a character divides a pattern into folders or literals. -/
def isDivider (c : Char) : Bool :=
  c == '/' || isBracket c

/-- Whether no two separators of a pattern touch, none stands in a literal, and no literal is
empty. -/
structure KeepsApart (pattern : Text) : Prop where
  separators : ¬ ['/', '/'] <:+: pattern
  literals : ∀ inner, IsLiteral pattern inner → inner ≠ [] ∧ '/' ∉ inner

namespace KeepsApart

/-- Whether a piece is no empty literal and none with a separator. -/
def IsSound : Piece → Prop
  | .literal inner => inner ≠ [] ∧ '/' ∉ inner
  | .token _ => True
  | .plain _ => True

instance : (piece : Piece) → Decidable (IsSound piece)
  | .literal inner => inferInstanceAs (Decidable (inner ≠ [] ∧ '/' ∉ inner))
  | .token _ => .isTrue trivial
  | .plain _ => .isTrue trivial

theorem iff_isSound
    (system : CalendarSystem)
    (pattern : Text) :
    KeepsApart pattern ↔
      ¬ ['/', '/'] <:+: pattern ∧ ∀ piece ∈ pieces system pattern, IsSound piece := by
  constructor
  · rintro ⟨separators, literals⟩
    refine ⟨separators, fun piece member => ?_⟩
    cases piece with
    | literal inner => exact literals inner ((literal_mem_pieces_iff system pattern inner).1 member)
    | token => trivial
    | plain => trivial
  · rintro ⟨separators, sound⟩
    refine ⟨separators, fun inner literal => ?_⟩
    exact sound _ ((literal_mem_pieces_iff system pattern inner).2 literal)

instance (pattern : Text) : Decidable (KeepsApart pattern) :=
  decidable_of_iff'
    (¬ ['/', '/'] <:+: pattern ∧
      ∀ piece ∈ piecesWithin .gregorian pattern.length pattern, IsSound piece)
    (pieces_eq_piecesWithin .gregorian pattern ▸ iff_isSound .gregorian pattern)

end KeepsApart

theorem openAfter_of_respelled
    {text other : Text}
    (respelled : Respelled isDivider text other) :
    openAfter false text = openAfter false other := by
  refine respelled.foldl_eq ?_ false
  intro isOpen c noDivider
  have flat : isBracket c = false := by
    rw [isDivider, Bool.or_eq_false_iff] at noDivider
    exact noDivider.2
  exact openBehind_of_isBracket flat isOpen

/-- Separators that touch in a respelled text touched before. -/
theorem separators_of_respelled
    {text other : Text}
    (respelled : Respelled isDivider text other)
    (touch : ['/', '/'] <:+: text) :
    ['/', '/'] <:+: other := by
  obtain ⟨before, after, equal⟩ := touch
  have first : text = before ++ '/' :: '/' :: after := by simpa using equal.symm
  obtain ⟨front, back, rfl, -, behind⟩ := respelled.exists_split rfl first
  obtain ⟨between, last, rfl, none, -⟩ := behind.exists_split rfl (List.nil_append _).symm
  rw [none.eq_nil]
  exact ⟨front, last, by simp⟩

/-- A literal of a respelled text holds what one held before, respelled. -/
theorem IsLiteral.exists_respelled
    {text other inner : Text}
    (literal : IsLiteral text inner)
    (respelled : Respelled isDivider text other) :
    ∃ held, IsLiteral other held ∧ Respelled isDivider inner held := by
  obtain ⟨before, after, equal, outside, closing⟩ := literal
  obtain ⟨front, back, rfl, ahead, behind⟩ := respelled.exists_split rfl equal
  obtain ⟨held, rest, rfl, within, -⟩ := behind.exists_split rfl rfl
  refine ⟨held, ⟨front, rest, rfl, ?_, ?_⟩, within⟩
  · rw [← openAfter_of_respelled ahead, outside]
  · rwa [← within.mem_iff rfl]

theorem KeepsApart.of_respelled
    {text other : Text}
    (keepsApart : KeepsApart other)
    (respelled : Respelled isDivider text other) :
    KeepsApart text where
  separators := mt (separators_of_respelled respelled) keepsApart.separators
  literals := by
    intro inner literal
    obtain ⟨held, literalBefore, within⟩ := literal.exists_respelled respelled
    obtain ⟨given, flat⟩ := keepsApart.literals held literalBefore
    refine ⟨?_, ?_⟩
    · rintro rfl
      exact given within.eq_nil
    · rwa [within.mem_iff rfl]

theorem not_isSolarRun_of_isDivider
    (c : Char)
    (divides : isDivider c = true)
    (size : Nat) :
    isSolarRun c size = false := by
  refine isSolarRun_of_not_mem ?_ size
  intro isField
  have table : ∀ letter ∈ fieldLetters, isDivider letter = false := by decide
  rw [table c isField] at divides
  cases divides

theorem isDivider_of_mem_ofInt
    {quarter : Int}
    {c : Char}
    (member : c ∈ Text.ofInt quarter) :
    isDivider c = false := by
  have unlisted : c ∉ ['/', '[', ']'] := Text.not_mem_of_mem_ofInt (by decide) member
  simpa [isDivider, isBracket] using unlisted

/-- The preparation leaves separators apart. -/
theorem keepsApart_prepare
    {pattern : Text}
    (keepsApart : KeepsApart pattern)
    (system : CalendarSystem)
    (quarter : Option Int) :
    KeepsApart (prepare system quarter pattern) := by
  have marked : KeepsApart (mark system pattern) := by
    cases system with
    | solar =>
      rw [mark_solar]
      exact keepsApart.of_respelled
        (respelled_markRunsAfter (by decide) not_isSolarRun_of_isDivider none pattern)
    | gregorian => exact keepsApart
  have lowered : KeepsApart (prepare system none pattern) :=
    marked.of_respelled (respelled_lowerWeeks (by decide) (mark system pattern))
  cases quarter with
  | none => exact lowered
  | some given =>
    exact lowered.of_respelled (respelled_substituteQuarterAt rfl (Text.ofInt_ne_nil given)
      (fun _ => isDivider_of_mem_ofInt) 0 (prepare system none pattern))

end Daybook.Pattern
