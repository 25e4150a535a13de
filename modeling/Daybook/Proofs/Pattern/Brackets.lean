import Daybook.Proofs.Pattern.Runs
import Daybook.Proofs.Text.Numeral

/-!
Contract: the two ways of counting square brackets, and the places outside bracketed literals.

Owns:
- the depth of nested brackets after a text, by which quarters are put in;
- whether a bracket is left open after a text where brackets do not nest;
- the occurrence of a wanted character outside literals, along a text;
- brackets and quarter tokens under the steps of the preparation.

Does not own: how a prepared pattern is read.
-/

namespace Daybook.Pattern

def isBracket (c : Char) : Bool :=
  c == '[' || c == ']'

/-- The depth of brackets behind a character.  A closing bracket without an opening one counts for
nothing. -/
def depthBehind (depth : Nat) (c : Char) : Nat :=
  if c = '[' then depth + 1 else if c = ']' then depth - 1 else depth

/-- The depth of brackets after a text that begins at the given depth. -/
def depthAfter (depth : Nat) (text : Text) : Nat :=
  text.foldl depthBehind depth

/-- Whether a bracket is open behind a character, where a closing one closes all. -/
def openBehind (isOpen : Bool) (c : Char) : Bool :=
  if c = ']' then false else isOpen || c == '['

/-- Whether a bracket is open after a text. -/
def openAfter (isOpen : Bool) (text : Text) : Bool :=
  text.foldl openBehind isOpen

/-- Whether the place between two texts lies in a bracketed literal: a bracket is open there, and
one closes later. -/
def InLiteral (before after : Text) : Prop :=
  openAfter false before = true ∧ ']' ∈ after

instance (before after : Text) : Decidable (InLiteral before after) :=
  inferInstanceAs (Decidable (openAfter false before = true ∧ ']' ∈ after))

/-! ### Counting along a text -/

theorem ne_of_isBracket {c : Char} (other : isBracket c = false) : c ≠ '[' ∧ c ≠ ']' := by
  simpa [isBracket] using other

theorem depthBehind_of_isBracket
    {c : Char}
    (other : isBracket c = false)
    (depth : Nat) :
    depthBehind depth c = depth := by
  rw [depthBehind, if_neg (ne_of_isBracket other).1, if_neg (ne_of_isBracket other).2]

theorem openBehind_of_isBracket
    {c : Char}
    (other : isBracket c = false)
    (isOpen : Bool) :
    openBehind isOpen c = isOpen := by
  rw [openBehind, if_neg (ne_of_isBracket other).2, beq_false_of_ne (ne_of_isBracket other).1,
    Bool.or_false]

/-- A bracket that is never closed stays open behind every character. -/
theorem not_mem_of_openBehind
    {isOpen : Bool}
    {c : Char}
    {rest : Text}
    (unclosed : isOpen = true → ']' ∉ c :: rest)
    (unclosedHere : c = '[' → ']' ∉ rest)
    (remains : openBehind isOpen c = true) :
    ']' ∉ rest := by
  intro member
  by_cases opening : c = '['
  · exact unclosedHere opening member
  · rw [openBehind] at remains
    split at remains
    · cases remains
    · have wasOpen : isOpen = true := by simpa [opening] using remains
      exact unclosed wasOpen (List.mem_cons_of_mem c member)

/-- Without a closing bracket the depth never sinks. -/
theorem le_depthAfter
    {text : Text}
    (depth : Nat)
    (unclosed : ']' ∉ text) :
    depth ≤ depthAfter depth text := by
  induction text generalizing depth with
  | nil => exact Nat.le_refl depth
  | cons c rest inductionHypothesis =>
    have parts := List.ne_and_not_mem_of_not_mem_cons unclosed
    have step : depth ≤ depthBehind depth c := by
      rw [depthBehind, if_neg (Ne.symm parts.1)]
      split <;> omega
    exact Nat.le_trans step (inductionHypothesis _ parts.2)

/-- Where no bracket is left open, each one is closed later. -/
theorem closing_mem_of_depthAfter_eq_zero
    {depth : Nat}
    {before after : Text}
    (closed : depthAfter depth (before ++ '[' :: after) = 0) :
    ']' ∈ after := by
  by_cases closes : ']' ∈ after
  · exact closes
  · have deeper := le_depthAfter (depthAfter depth before + 1) closes
    rw [depthAfter, List.foldl_append] at closed
    have sunk : depthAfter (depthAfter depth before + 1) after = 0 := closed
    omega

/-! ### Occurrences outside literals -/

section Occurrences

variable {σ : Type} {step : σ → Char → σ} {wanted : σ → Char → Text → Prop}

/-- Whether a character outside literals is wanted.  It depends on the text after the character, and
on what a state has kept of the text before. -/
def Occurs
    (step : σ → Char → σ)
    (wanted : σ → Char → Text → Prop)
    (state : σ)
    (isOpen : Bool)
    (text : Text) :
    Prop :=
  ∃ before c after, text = before ++ c :: after ∧
    ¬ (openAfter isOpen before = true ∧ ']' ∈ after) ∧ wanted (before.foldl step state) c after

theorem not_occurs_nil {state : σ} {isOpen : Bool} : ¬ Occurs step wanted state isOpen [] := by
  rintro ⟨before, c, after, impossible, -⟩
  exact List.append_ne_nil_of_right_ne_nil before (List.cons_ne_nil c after) impossible.symm

theorem occurs_cons
    {state : σ}
    {isOpen : Bool}
    {c : Char}
    {rest : Text} :
    Occurs step wanted state isOpen (c :: rest) ↔
      (¬ (isOpen = true ∧ ']' ∈ rest) ∧ wanted state c rest) ∨
        Occurs step wanted (step state c) (openBehind isOpen c) rest := by
  constructor
  · rintro ⟨before, d, after, equal, outside, isWanted⟩
    cases before with
    | nil =>
      cases equal
      exact .inl ⟨outside, isWanted⟩
    | cons first before =>
      cases equal
      exact .inr ⟨before, d, after, rfl, outside, isWanted⟩
  · rintro (⟨outside, isWanted⟩ | ⟨before, d, after, rfl, outside, isWanted⟩)
    · exact ⟨[], c, rest, rfl, outside, isWanted⟩
    · exact ⟨c :: before, d, after, rfl, outside, isWanted⟩

instance decidableOccurs [∀ state c after, Decidable (wanted state c after)] :
    (state : σ) → (isOpen : Bool) → (text : Text) → Decidable (Occurs step wanted state isOpen text)
  | _, _, [] => isFalse not_occurs_nil
  | state, isOpen, c :: rest =>
    have := decidableOccurs (step state c) (openBehind isOpen c) rest
    decidable_of_iff' _ occurs_cons

/-- A character that is never wanted can be left out, as far as the state takes notice of it. -/
theorem occurs_cons_unwanted
    {state : σ}
    {isOpen : Bool}
    {c : Char}
    {rest : Text}
    (unwanted : ¬ wanted state c rest) :
    Occurs step wanted state isOpen (c :: rest) ↔
      Occurs step wanted (step state c) (openBehind isOpen c) rest := by
  rw [occurs_cons, or_iff_right fun both => unwanted both.2]

theorem occurs_append_unwanted
    {state : σ}
    {isOpen : Bool}
    {text rest : Text}
    (flat : ∀ c ∈ text, isBracket c = false)
    (unwanted : ∀ c ∈ text, ∀ state after, ¬ wanted state c after) :
    Occurs step wanted state isOpen (text ++ rest) ↔
      Occurs step wanted (text.foldl step state) isOpen rest := by
  induction text generalizing state with
  | nil => exact Iff.rfl
  | cons c text inductionHypothesis =>
    rw [List.cons_append, occurs_cons_unwanted (unwanted c List.mem_cons_self state _),
      openBehind_of_isBracket (flat c List.mem_cons_self)]
    exact inductionHypothesis (fun other member => flat other (List.mem_cons_of_mem c member))
      fun other member => unwanted other (List.mem_cons_of_mem c member)

/-- Nothing counts from inside a literal on until that closes. -/
theorem occurs_inside
    {state : σ}
    {inner rest : Text}
    (closing : ']' ∉ inner)
    (unwanted : ∀ state after, ¬ wanted state ']' after) :
    Occurs step wanted state true (inner ++ ']' :: rest) ↔
      Occurs step wanted ((inner ++ [']']).foldl step state) false rest := by
  induction inner generalizing state with
  | nil => exact occurs_cons_unwanted (unwanted state rest)
  | cons c inner inductionHypothesis =>
    have parts := List.ne_and_not_mem_of_not_mem_cons closing
    have staysOpen : openBehind true c = true := by
      rw [openBehind, if_neg (Ne.symm parts.1), Bool.true_or]
    have closesLater : ']' ∈ inner ++ ']' :: rest :=
      List.mem_append_right inner List.mem_cons_self
    rw [List.cons_append, occurs_cons, or_iff_right fun both => both.1 ⟨rfl, closesLater⟩,
      staysOpen]
    exact inductionHypothesis parts.2

/-- Nothing in a literal counts. -/
theorem occurs_literal
    {state : σ}
    {inner rest : Text}
    (closing : ']' ∉ inner)
    (noBracket : ∀ state c after, isBracket c = true → ¬ wanted state c after) :
    Occurs step wanted state false ('[' :: (inner ++ ']' :: rest)) ↔
      Occurs step wanted (('[' :: (inner ++ [']'])).foldl step state) false rest := by
  rw [occurs_cons_unwanted (noBracket state '[' _ rfl)]
  exact occurs_inside closing fun state after => noBracket state ']' after rfl

end Occurrences

/-! ### Texts with the same brackets -/

/-- Whether a character is looked at when a quarter is put in. -/
def isQuarterMarkup (c : Char) : Bool :=
  isBracket c || c == 'Q'

/-- Whether two texts have the same brackets in the same order. -/
def SameBrackets (first second : Text) : Prop :=
  first.filter isBracket = second.filter isBracket

namespace SameBrackets

variable {first second third : Text}

theorem trans
    (same : SameBrackets first second)
    (next : SameBrackets second third) :
    SameBrackets first third :=
  Eq.trans same next

theorem depthAfter_eq
    (same : SameBrackets first second)
    (depth : Nat) :
    depthAfter depth first = depthAfter depth second := by
  have filtered : ∀ text : Text,
      depthAfter depth (text.filter isBracket) = depthAfter depth text := by
    intro text
    rw [depthAfter, depthAfter, List.foldl_filter]
    congr 1
    funext current c
    cases bracket : isBracket c with
    | true => rfl
    | false => exact (depthBehind_of_isBracket bracket current).symm
  rw [← filtered first, same, filtered second]

theorem closing_mem_iff (same : SameBrackets first second) : ']' ∈ first ↔ ']' ∈ second := by
  have filtered : ∀ text : Text, ']' ∈ text.filter isBracket ↔ ']' ∈ text := by
    simp [isBracket]
  rw [← filtered first, same, filtered second]

/-- Texts with the same brackets and quarter tokens have the same brackets. -/
theorem of_filter
    (same : first.filter isQuarterMarkup = second.filter isQuarterMarkup) :
    SameBrackets first second := by
  have finer : ∀ text : Text,
      (text.filter isQuarterMarkup).filter isBracket = text.filter isBracket := by
    intro text
    rw [List.filter_filter]
    congr 1
    funext c
    cases bracket : isBracket c <;> simp [isQuarterMarkup, bracket]
  rw [SameBrackets, ← finer first, same, finer second]

end SameBrackets

/-- Marking leaves brackets and quarter tokens alone. -/
theorem filter_markRunsAfter
    (chosen : Char → Nat → Bool)
    (before : Option Char)
    (text : Text) :
    (markRunsAfter chosen before text).filter isQuarterMarkup = text.filter isQuarterMarkup := by
  have mark : ¬ isQuarterMarkup solarMark = true := by decide
  induction text generalizing before with
  | nil => rfl
  | cons c rest inductionHypothesis =>
    rw [markRunsAfter]
    split
    · rw [List.filter_cons_of_neg mark, List.filter_cons, List.filter_cons, inductionHypothesis]
    · rw [List.filter_cons, List.filter_cons, inductionHypothesis]

theorem filter_lowerWeeks (text : Text) :
    (lowerWeeks text).filter isQuarterMarkup = text.filter isQuarterMarkup := by
  fun_induction lowerWeeks text with
  | case1 rest inductionHypothesis => exact inductionHypothesis
  | case2 c rest _ inductionHypothesis =>
    rw [List.filter_cons, List.filter_cons, inductionHypothesis]
  | case3 => rfl

theorem prepare_none
    (system : CalendarSystem)
    (pattern : Text) :
    prepare system none pattern = lowerWeeks (mark system pattern) := rfl

/-- Before the quarter is put in, the preparation leaves brackets and quarter tokens alone. -/
theorem filter_prepare_none
    (system : CalendarSystem)
    (pattern : Text) :
    (prepare system none pattern).filter isQuarterMarkup = pattern.filter isQuarterMarkup := by
  rw [prepare_none, filter_lowerWeeks]
  cases system with
  | solar => rw [mark_solar, markRuns, filter_markRunsAfter]
  | gregorian => rfl

/-! ### Putting a quarter in -/

theorem prepare_some
    (system : CalendarSystem)
    (quarter : Int)
    (pattern : Text) :
    prepare system (some quarter) pattern =
      substituteQuarterAt (Text.ofInt quarter) 0 (prepare system none pattern) := rfl

/-- Outside brackets the quarter token gives way to the digits. -/
theorem substituteQuarterAt_quarter (digits rest : Text) :
    substituteQuarterAt digits 0 ('Q' :: rest) = digits ++ substituteQuarterAt digits 0 rest := rfl

/-- All other characters stay, and brackets are counted. -/
theorem substituteQuarterAt_cons
    {digits : Text}
    {depth : Nat}
    {c : Char}
    (kept : ¬ (c = 'Q' ∧ depth = 0))
    (rest : Text) :
    substituteQuarterAt digits depth (c :: rest) =
      c :: substituteQuarterAt digits (depthBehind depth c) rest := by
  rw [substituteQuarterAt, if_neg kept, depthBehind]
  split
  · rfl
  · split <;> rfl

theorem substituteQuarterAt_plain
    {c : Char}
    (plain : isQuarterMarkup c = false)
    (digits : Text)
    (depth : Nat)
    (rest : Text) :
    substituteQuarterAt digits depth (c :: rest) = c :: substituteQuarterAt digits depth rest := by
  simp only [isQuarterMarkup, Bool.or_eq_false_iff, beq_eq_false_iff_ne] at plain
  rw [substituteQuarterAt_cons fun both => plain.2 both.1, depthBehind_of_isBracket plain.1]

/-- A substitution goes on after a text at the depth that the text leaves. -/
theorem substituteQuarterAt_join
    (digits : Text)
    (depth : Nat)
    (first second : Text) :
    substituteQuarterAt digits depth (first ++ second) =
      substituteQuarterAt digits depth first ++
        substituteQuarterAt digits (depthAfter depth first) second := by
  induction first generalizing depth with
  | nil => rfl
  | cons c rest inductionHypothesis =>
    by_cases replaced : c = 'Q' ∧ depth = 0
    · obtain ⟨rfl, rfl⟩ := replaced
      rw [List.cons_append, substituteQuarterAt_quarter, substituteQuarterAt_quarter,
        inductionHypothesis, List.append_assoc]
      rfl
    · rw [List.cons_append, substituteQuarterAt_cons replaced, substituteQuarterAt_cons replaced,
        inductionHypothesis, List.cons_append]
      rfl

/-- The digits of a quarter are neither brackets nor quarter tokens. -/
theorem isQuarterMarkup_of_mem_ofInt
    {quarter : Int}
    {c : Char}
    (member : c ∈ Text.ofInt quarter) :
    isQuarterMarkup c = false := by
  have unlisted : c ∉ ['[', ']', 'Q'] := Text.not_mem_of_mem_ofInt (by decide) member
  simpa [isQuarterMarkup, isBracket, and_assoc] using unlisted

/-- A substitution leaves all brackets alone. -/
theorem sameBrackets_substituteQuarterAt
    {digits : Text}
    (plain : ∀ c ∈ digits, isQuarterMarkup c = false)
    (depth : Nat)
    (text : Text) :
    SameBrackets (substituteQuarterAt digits depth text) text := by
  have none : digits.filter isBracket = [] := by
    rw [List.filter_eq_nil_iff]
    intro c member bracket
    have other := plain c member
    rw [isQuarterMarkup, bracket, Bool.true_or] at other
    cases other
  unfold SameBrackets
  induction text generalizing depth with
  | nil => rfl
  | cons c rest inductionHypothesis =>
    by_cases replaced : c = 'Q' ∧ depth = 0
    · obtain ⟨rfl, rfl⟩ := replaced
      rw [substituteQuarterAt_quarter, List.filter_append, none, inductionHypothesis]
      rfl
    · rw [substituteQuarterAt_cons replaced, List.filter_cons, List.filter_cons,
        inductionHypothesis]

end Daybook.Pattern
