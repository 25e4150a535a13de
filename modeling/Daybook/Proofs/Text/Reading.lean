import Daybook.Proofs.Text.Numeral
import Mathlib.Data.List.TakeWhile

/-!
Contract: a number that is written out is read again as itself.

Owns:
- the marks and the space that written numbers are free of;
- the sign and the digits of a written number as the reader finds them;
- the reading of every written number, and the length from which on it is not read.

Does not own: other spellings of a number that a person may type.
-/

namespace Daybook.Text

/-! ### What written numbers are free of -/

/-- A plain digit is no space, no grouping mark and no sign. -/
theorem apart_of_isAsciiDigit
    {c : Char}
    (digit : c.isDigit = true) :
    isNumeralSpace c = false ∧ c ≠ '_' ∧ c ≠ '-' ∧ c ≠ '+' := by
  simp only [Char.isDigit, Bool.and_eq_true, decide_eq_true_eq] at digit
  have low : 48 ≤ c.toNat := digit.1
  have high : c.toNat ≤ 57 := digit.2
  have table :
      ∀ code ∈ List.range' 48 10,
        isNumeralSpace (Char.ofNat code) = false ∧ Char.ofNat code ≠ '_' ∧
          Char.ofNat code ≠ '-' ∧ Char.ofNat code ≠ '+' := by
    decide
  have found := table c.toNat (List.mem_range'_1.2 ⟨low, by omega⟩)
  rwa [Char.ofNat_toNat] at found

theorem exists_ofNat_eq_cons (n : Nat) :
    ∃ c rest, ofNat n = c :: rest ∧ c.isDigit = true := by
  obtain ⟨c, rest, whole⟩ := List.exists_cons_of_ne_nil (ofNat_ne_nil n)
  exact ⟨c, rest, whole, isAsciiDigit_of_mem_ofNat (whole ▸ List.mem_cons_self)⟩

theorem marksSeparate_of_notMem
    {text : Text}
    (noMark : '_' ∉ text) :
    marksSeparate true text = true := by
  induction text with
  | nil => rfl
  | cons c rest inductionHypothesis =>
    obtain ⟨differs, noMarkInRest⟩ := not_or.1 (mt List.mem_cons.2 noMark)
    rw [marksSeparate, if_neg (Ne.symm differs)]
    exact inductionHypothesis noMarkInRest

theorem notMem_mark_ofNat (n : Nat) : '_' ∉ ofNat n :=
  fun member => (apart_of_isAsciiDigit (isAsciiDigit_of_mem_ofNat member)).2.1 rfl

theorem marksSeparate_ofNat (n : Nat) : marksSeparate false (ofNat n) = true := by
  obtain ⟨c, rest, whole, digit⟩ := exists_ofNat_eq_cons n
  have noMark := notMem_mark_ofNat n
  rw [whole] at noMark ⊢
  rw [marksSeparate, if_neg (apart_of_isAsciiDigit digit).2.1]
  exact marksSeparate_of_notMem fun member => noMark (List.mem_cons_of_mem c member)

/-! ### The sign and the digits -/

theorem splitSign_ofNat (n : Nat) : splitSign (ofNat n) = (false, ofNat n) := by
  obtain ⟨c, rest, whole, digit⟩ := exists_ofNat_eq_cons n
  obtain ⟨-, -, noMinus, noPlus⟩ := apart_of_isAsciiDigit digit
  rw [whole]
  unfold splitSign
  split
  · next opens =>
    cases opens
    exact absurd rfl noMinus
  · next opens =>
    cases opens
    exact absurd rfl noPlus
  · rfl

theorem dropWhile_space_ofInt (n : Int) : (ofInt n).dropWhile isNumeralSpace = ofInt n := by
  cases n with
  | ofNat n =>
    obtain ⟨c, rest, whole, digit⟩ := exists_ofNat_eq_cons n
    show (ofNat n).dropWhile isNumeralSpace = ofNat n
    rw [whole, List.dropWhile_cons, (apart_of_isAsciiDigit digit).1]
    rfl
  | negSucc n =>
    have noSpace : isNumeralSpace '-' = false := by decide
    rw [ofInt, List.dropWhile_cons, noSpace]
    rfl

/-- What follows the sign of a written number is the number without it. -/
theorem splitSign_ofInt (n : Int) : splitSign (ofInt n) = (decide (n < 0), ofNat n.natAbs) := by
  cases n with
  | ofNat n =>
    have notNegative : decide (Int.ofNat n < 0) = false := by simp
    rw [notNegative]
    exact splitSign_ofNat n
  | negSucc n =>
    have negative : decide (Int.negSucc n < 0) = true := by simp [Int.negSucc_lt_zero]
    rw [negative]
    rfl

theorem isDigitOrMark_of_mem_ofNat
    {n : Nat}
    {c : Char}
    (member : c ∈ ofNat n) :
    isDigitOrMark c = true := by
  rw [isDigitOrMark, isDigit_of_isAsciiDigit (isAsciiDigit_of_mem_ofNat member), Bool.true_or]

theorem filter_isDigit_ofNat (n : Nat) : (ofNat n).filter isDigit = ofNat n := by
  refine List.filter_eq_self.2 ?_
  intro c member
  exact isDigit_of_isAsciiDigit (isAsciiDigit_of_mem_ofNat member)

/-! ### Reading again -/

/-- A written number is read as itself, unless it has more digits than are read at all; a sign is no
digit. -/
theorem readInt_ofInt (n : Int) :
    readInt (ofInt n) =
      if digitLimit < (ofNat n.natAbs).length then .error (.tooLong (ofNat n.natAbs).length)
      else .ok n := by
  have run : (ofNat n.natAbs).takeWhile isDigitOrMark = ofNat n.natAbs :=
    List.takeWhile_eq_self_iff.2 fun c => isDigitOrMark_of_mem_ofNat
  have rest : (ofNat n.natAbs).dropWhile isDigitOrMark = [] :=
    List.dropWhile_eq_nil_iff.2 fun c => isDigitOrMark_of_mem_ofNat
  have value : (if decide (n < 0) = true then -((n.natAbs : Nat) : Int) else n.natAbs) = n := by
    by_cases negative : n < 0
    · rw [if_pos (decide_eq_true negative)]
      omega
    · rw [if_neg (mt of_decide_eq_true negative)]
      omega
  unfold readInt
  rw [dropWhile_space_ofInt, splitSign_ofInt]
  simp only [run, rest, marksSeparate_ofNat, filter_isDigit_ofNat, digitsValue_ofNat, value,
    List.all_nil, Bool.not_true, Bool.false_eq_true, if_true, if_false]

/-- A number whose digits are not too many is read from its decimal spelling. -/
theorem readInt_ofInt_of_short
    {n : Int}
    (short : (ofNat n.natAbs).length ≤ digitLimit) :
    readInt (ofInt n) = .ok n := by
  rw [readInt_ofInt, if_neg (Nat.not_lt.2 short)]

end Daybook.Text
