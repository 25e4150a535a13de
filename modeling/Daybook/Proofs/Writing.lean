import Daybook.DateParts
import Daybook.Proofs.Attempt
import Daybook.Proofs.Text.Numeral
import Mathlib.Algebra.Group.Int.Defs

/-!
Contract: when numbers can be written, and what happens where they cannot.

Owns:
- numbers with few enough digits to be written, told by their size, and those that were read;
- the success and the failure of work that has to write numbers;
- the fault that is met where another one is to be worded.

Does not own: which work has to write which numbers.
-/

namespace Daybook

namespace Text

/-- A number can be written exactly if its digits are within the limit. -/
theorem isWritable_iff {n : Int} : isWritable n = true ↔ n.natAbs < 10 ^ digitLimit := by
  have positive : 0 < digitLimit := by decide
  rw [isWritable, decide_eq_true_eq, ofNat, Nat.length_toDigits_le_iff (by decide) positive]

/-- The numbers of thirty-two bits can all be written. -/
theorem isWritable_of_bounds
    {n : Int}
    (low : -2147483648 ≤ n)
    (high : n < 2147483648) :
    isWritable n = true := by
  have wide : (10 : Nat) ^ 10 ≤ 10 ^ digitLimit := Nat.pow_le_pow_right (by decide) (by decide)
  refine isWritable_iff.2 (Nat.lt_of_lt_of_le ?_ wide)
  omega

/-- The first power of ten with too many digits. -/
theorem not_isWritable_pow_digitLimit : isWritable (10 ^ digitLimit) = false := by
  have base : (10 : Int).natAbs = 10 := rfl
  rw [Bool.eq_false_iff, Ne, isWritable_iff, Int.natAbs_pow, base]
  exact Nat.lt_irrefl _

/-- A number that was read can be written again. -/
theorem isWritable_of_readInt
    {text : Text}
    {n : Int}
    (read : readInt text = .ok n) :
    isWritable n = true := by
  unfold readInt at read
  dsimp only at read
  split at read
  · cases read
  · split at read
    · cases read
    · rename_i short
      split at read
      · have small := Nat.lt_of_lt_of_le (digitsValue_lt _)
          (Nat.pow_le_pow_right (by decide) (Nat.le_of_not_lt short))
        cases read
        refine isWritable_iff.2 ?_
        split
        · rwa [Int.natAbs_neg, Int.natAbs_natCast]
        · rwa [Int.natAbs_natCast]
      · cases read

end Text

namespace Fault

variable
  {α : Type}
  {numbers : List Int}

theorem writing_eq_ok_iff :
    writing numbers = .ok () ↔ ∀ n ∈ numbers, Text.isWritable n = true := by
  rw [writing, ← List.all_eq_true]
  split <;> simp_all

theorem writing_of_writable
    (writable : ∀ n ∈ numbers, Text.isWritable n = true) :
    writing numbers = .ok () :=
  writing_eq_ok_iff.2 writable

theorem writing_of_not_writable
    (unwritable : ¬ ∀ n ∈ numbers, Text.isWritable n = true) :
    writing numbers = .error .unwritable := by
  rw [← List.all_eq_true] at unwritable
  rw [writing, if_neg unwritable]

/-- Work that has to write numbers first goes on if it can. -/
theorem writing_bind_of_writable
    (writable : ∀ n ∈ numbers, Text.isWritable n = true)
    (next : Unit → Except Fault α) :
    (writing numbers >>= next) = next () := by
  rw [writing_of_writable writable]
  rfl

/-- Work that has to write numbers first succeeds only where they can be written. -/
theorem writing_bind_eq_ok_iff
    {next : Unit → Except Fault α}
    {result : α} :
    (writing numbers >>= next) = .ok result ↔
      (∀ n ∈ numbers, Text.isWritable n = true) ∧ next () = .ok result := by
  rw [Attempt.bind_eq_ok_iff, ← writing_eq_ok_iff]
  constructor
  · rintro ⟨⟨⟩, written, succeeded⟩
    exact ⟨written, succeeded⟩
  · rintro ⟨written, succeeded⟩
    exact ⟨(), written, succeeded⟩

/-- A fault is met as itself if its numbers can be written. -/
theorem raise_of_writable
    {fault : Fault}
    (writable : ∀ n ∈ fault.numbers, Text.isWritable n = true) :
    (raise fault : Except Fault α) = .error fault :=
  writing_bind_of_writable writable _

/-- Of a fault with a number that is too long to be written, only that is known. -/
theorem raise_of_not_writable
    {fault : Fault}
    (unwritable : ¬ ∀ n ∈ fault.numbers, Text.isWritable n = true) :
    (raise fault : Except Fault α) = .error .unwritable := by
  rw [raise, writing_of_not_writable unwritable]
  rfl

theorem raise_ne_ok
    {fault : Fault}
    {value : α} :
    raise fault ≠ .ok value := by
  rw [raise]
  cases writing fault.numbers <;> rintro ⟨⟩

/-- Nothing is done after a fault. -/
theorem raise_bind
    {β : Type}
    (fault : Fault)
    (next : α → Except Fault β) :
    (raise fault >>= next) = raise fault := by
  rw [raise, raise]
  cases writing fault.numbers <;> rfl

end Fault

end Daybook
