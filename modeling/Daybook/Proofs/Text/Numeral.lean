import Daybook.Calendar.Locale
import Daybook.Text.Numeral
import Mathlib.Algebra.Group.Nat.Defs
import Mathlib.Data.List.Induction

/-!
Contract: numbers that are written out spell themselves.

Owns:
- the characters of written numbers;
- the length of padded numbers, and the number that their digits spell;
- how great a number some digits can spell;
- the same for numbers in the digits of a locale.

Does not own: numbers that a person typed.
-/

namespace Daybook

namespace Text

/-! ### Characters -/

theorem digit?_digitChar
    {n : Nat}
    (small : n < 10) :
    digit? (Nat.digitChar n) = some n := by
  have table : ∀ value < 10, digit? (Nat.digitChar value) = some value := by decide
  exact table n small

theorem isDigit_of_isAsciiDigit
    {c : Char}
    (digit : c.isDigit = true) :
    isDigit c = true := by
  simp only [Char.isDigit, Bool.and_eq_true, decide_eq_true_eq] at digit
  have low : 48 ≤ c.toNat := digit.1
  have high : c.toNat ≤ 57 := digit.2
  have table : ∀ code ∈ List.range' 48 10, isDigit (Char.ofNat code) = true := by decide
  have found := table c.toNat (List.mem_range'_1.2 ⟨low, by omega⟩)
  rwa [Char.ofNat_toNat] at found

theorem isAsciiDigit_of_mem_ofNat
    {n : Nat}
    {c : Char}
    (member : c ∈ ofNat n) :
    c.isDigit = true :=
  Nat.isDigit_of_mem_toDigits (by decide) (by decide) member

theorem mem_ofInt
    {n : Int}
    {c : Char}
    (member : c ∈ ofInt n) :
    c = '-' ∨ c.isDigit = true := by
  cases n with
  | ofNat n => exact .inr (isAsciiDigit_of_mem_ofNat member)
  | negSucc n =>
    rcases List.mem_cons.1 member with sign | digit
    · exact .inl sign
    · exact .inr (isAsciiDigit_of_mem_ofNat digit)

/-- Characters that are neither digits nor the sign stand in no number. -/
theorem not_mem_of_mem_ofInt
    {others : List Char}
    (apart : ∀ other ∈ others, ¬ (other = '-' ∨ other.isDigit = true))
    {n : Int}
    {c : Char}
    (member : c ∈ ofInt n) :
    c ∉ others :=
  fun listed => apart c listed (mem_ofInt member)

theorem ofNat_ne_nil (n : Nat) : ofNat n ≠ [] :=
  Nat.toDigits_ne_nil

theorem ofInt_ne_nil (n : Int) : ofInt n ≠ [] := by
  cases n with
  | ofNat n => exact ofNat_ne_nil n
  | negSucc n => exact List.cons_ne_nil _ _

theorem padded_ne_nil (width n : Nat) : padded width n ≠ [] :=
  List.append_ne_nil_of_right_ne_nil _ (ofNat_ne_nil n)

theorem isAsciiDigit_of_mem_padded
    {width n : Nat}
    {c : Char}
    (member : c ∈ padded width n) :
    c.isDigit = true := by
  rcases List.mem_append.1 member with zero | digit
  · rw [List.eq_of_mem_replicate zero]
    rfl
  · exact isAsciiDigit_of_mem_ofNat digit

/-! ### Values -/

theorem digitsValue_concat
    (text : Text)
    (c : Char) :
    digitsValue (text ++ [c]) = 10 * digitsValue text + (digit? c).getD 0 := by
  simp [digitsValue]

/-- Digits spell a number below the power of ten that has one digit more. -/
theorem digitsValue_lt (text : Text) : digitsValue text < 10 ^ text.length := by
  induction text using List.reverseRecOn with
  | nil => decide
  | append_singleton text c inductionHypothesis =>
    have isDigitValue : (digit? c).getD 0 < 10 := by
      cases found : digit? c with
      | none => decide
      | some value => exact digit?_lt_ten found
    rw [digitsValue_concat, List.length_append, List.length_singleton, Nat.pow_succ]
    omega

theorem digitsValue_ofNat (n : Nat) : digitsValue (ofNat n) = n := by
  induction n using Nat.strongRecOn with
  | ind n inductionHypothesis =>
    by_cases small : n < 10
    · rw [ofNat, Nat.toDigits_of_lt_base small, ← List.nil_append [_], digitsValue_concat,
        digit?_digitChar small]
      simp [digitsValue]
    · have shorter := inductionHypothesis (n / 10) (by omega)
      rw [ofNat] at shorter ⊢
      rw [Nat.toDigits_of_base_le (by decide) (by omega), digitsValue_concat, shorter,
        digit?_digitChar (Nat.mod_lt n (by decide)), Option.getD_some]
      exact Nat.div_add_mod n 10

theorem digitsValue_zeros (count : Nat) (text : Text) :
    digitsValue (List.replicate count '0' ++ text) = digitsValue text := by
  induction count with
  | zero => rfl
  | succ count inductionHypothesis =>
    have zero : (digit? '0').getD 0 = 0 := by decide
    rw [List.replicate_succ, List.cons_append, ← inductionHypothesis]
    simp [digitsValue, zero]

theorem digitsValue_padded (width n : Nat) : digitsValue (padded width n) = n := by
  rw [padded, digitsValue_zeros, digitsValue_ofNat]

/-- A number with no more digits than the width fills it exactly. -/
theorem length_padded
    {width n : Nat}
    (positive : 0 < width)
    (fits : n < Nat.pow 10 width) :
    (padded width n).length = width := by
  have short := (Nat.length_toDigits_le_iff (by decide) positive).2 fits
  rw [padded, List.length_append, List.length_replicate]
  exact Nat.sub_add_cancel short

/-- A text of digits that spell the given number. -/
def Spells (text : Text) (n : Nat) : Prop :=
  text.all isDigit = true ∧ digitsValue text = n

theorem spells_ofNat (n : Nat) : Spells (ofNat n) n := by
  refine ⟨List.all_eq_true.2 ?_, digitsValue_ofNat n⟩
  intro c member
  exact isDigit_of_isAsciiDigit (isAsciiDigit_of_mem_ofNat member)

theorem spells_padded (width n : Nat) : Spells (padded width n) n := by
  refine ⟨List.all_eq_true.2 ?_, digitsValue_padded width n⟩
  intro c member
  exact isDigit_of_isAsciiDigit (isAsciiDigit_of_mem_padded member)

theorem Spells.all_isFigure
    {text : Text}
    {n : Nat}
    (spells : Spells text n) :
    text.all isFigure = true := by
  refine List.all_eq_true.2 ?_
  intro c member
  exact isFigure_of_isDigit (List.all_eq_true.1 spells.1 c member)

/-- A number below a hundred has two digits, or one. -/
theorem length_ofNat
    {n : Nat}
    (small : n < 100) :
    (ofNat n).length = 2 ∨ (ofNat n).length = 1 := by
  have short := (Nat.length_toDigits_le_iff (b := 10) (k := 2) (by decide) (by decide)).2 small
  have given : 0 < (Nat.toDigits 10 n).length := Nat.length_toDigits_pos
  unfold ofNat
  omega

/-! ### Digits of a locale -/

/-- A Persian digit has the value of the digit that it stands for. -/
theorem digit?_toPersianDigit (c : Char) : digit? (toPersianDigit c) = digit? c := by
  unfold toPersianDigit
  split
  · rename_i inside
    have low : 48 ≤ c.toNat := inside.1
    have high : c.toNat ≤ 57 := inside.2
    have table : ∀ code ∈ List.range' 48 10,
        digit? (Char.ofNat (code - 48 + 0x6F0)) = digit? (Char.ofNat code) := by
      decide
    have same := table c.toNat (List.mem_range'_1.2 ⟨low, by omega⟩)
    rwa [Char.ofNat_toNat] at same
  · rfl

theorem isDigit_toPersianDigit (c : Char) : isDigit (toPersianDigit c) = isDigit c := by
  rw [isDigit, isDigit, digit?_toPersianDigit]

theorem digitsValue_map_toPersianDigit (text : Text) :
    digitsValue (text.map toPersianDigit) = digitsValue text := by
  simp only [digitsValue, List.foldl_map, digit?_toPersianDigit]

end Text

namespace Locale

theorem digitsValue_digits
    (locale : Locale)
    (text : Text) :
    Text.digitsValue (locale.digits text) = Text.digitsValue text := by
  unfold digits
  split
  · exact Text.digitsValue_map_toPersianDigit text
  · rfl

theorem all_isDigit_digits
    (locale : Locale)
    (text : Text) :
    (locale.digits text).all Text.isDigit = text.all Text.isDigit := by
  unfold digits
  split
  · rw [List.all_map]
    exact congrArg text.all (funext Text.isDigit_toPersianDigit)
  · rfl

/-- Digits of a locale spell the same number. -/
theorem spells_digits
    (locale : Locale)
    {text : Text}
    {n : Nat}
    (spells : Text.Spells text n) :
    Text.Spells (locale.digits text) n := by
  refine ⟨?_, ?_⟩
  · rw [all_isDigit_digits, spells.1]
  · rw [digitsValue_digits, spells.2]

end Locale

end Daybook
