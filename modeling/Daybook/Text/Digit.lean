import Daybook.Text.Basic

/-!
Contract: the decimal digits of every script.

Owns:
- the table of digit blocks, each of ten consecutive characters from zero to nine;
- the value of a digit, and the value of a run of digits;
- the digits of younger scripts, which are told from other characters but have no value here;
- the Persian form of a digit.

Does not own: signs, grouping, limits on length, or padding.
-/

namespace Daybook.Text

/-- The zeros of the decimal digit blocks of Unicode 14, in increasing order. -/
def digitZeros : List Nat :=
  [0x30, 0x660, 0x6F0, 0x7C0, 0x966, 0x9E6, 0xA66, 0xAE6, 0xB66, 0xBE6, 0xC66, 0xCE6, 0xD66,
   0xDE6, 0xE50, 0xED0, 0xF20, 0x1040, 0x1090, 0x17E0, 0x1810, 0x1946, 0x19D0, 0x1A80, 0x1A90,
   0x1B50, 0x1BB0, 0x1C40, 0x1C50, 0xA620, 0xA8D0, 0xA900, 0xA9D0, 0xA9F0, 0xAA50, 0xABF0, 0xFF10,
   0x104A0, 0x10D30, 0x11066, 0x110F0, 0x11136, 0x111D0, 0x112F0, 0x11450, 0x114D0, 0x11650,
   0x116C0, 0x11730, 0x118E0, 0x11950, 0x11C50, 0x11D50, 0x11DA0, 0x16A60, 0x16AC0, 0x16B50,
   0x1D7CE, 0x1D7D8, 0x1D7E2, 0x1D7EC, 0x1D7F6, 0x1E140, 0x1E2F0, 0x1E950, 0x1FBF0]

/-- The value of a decimal digit of any script, and nothing for any other character. -/
def digit? (c : Char) : Option Nat :=
  (digitZeros.find? fun first => first ≤ c.toNat && c.toNat < first + 10).map (c.toNat - ·)

/-- Whether the character is a decimal digit of some script. -/
def isDigit (c : Char) : Bool :=
  (digit? c).isSome

/-- The zeros of the decimal digit blocks that Unicode 15 to 17 add, in increasing order. -/
def youngerDigitZeros : List Nat :=
  [0x10D40, 0x116D0, 0x116DA, 0x11BF0, 0x11DE0, 0x11F50, 0x16130, 0x16D70, 0x1CCF0, 0x1E4F0,
   0x1E5F1]

/-- Whether the character is a decimal digit of a script whose digits have no value here. -/
def isYoungerDigit (c : Char) : Bool :=
  youngerDigitZeros.any fun first => first ≤ c.toNat && c.toNat < first + 10

/-- Whether the character is known as a decimal digit, with a value or without one. -/
def isFigure (c : Char) : Bool :=
  isDigit c || isYoungerDigit c

/-- The number that a run of digits spells; characters that are not digits count as zero. -/
def digitsValue (text : Text) : Nat :=
  text.foldl (fun value c => 10 * value + (digit? c).getD 0) 0

/-- The Persian digit for each of the digits `0` to `9`; all other characters stay. -/
def toPersianDigit (c : Char) : Char :=
  if '0' ≤ c ∧ c ≤ '9' then Char.ofNat (c.toNat - 48 + 0x6F0) else c

theorem digit?_lt_ten
    {c : Char}
    {value : Nat}
    (found : digit? c = some value) :
    value < 10 := by
  obtain ⟨first, blockFound, rfl⟩ := Option.map_eq_some_iff.1 found
  have inBlock := List.find?_some blockFound
  simp only [Bool.and_eq_true, decide_eq_true_eq] at inBlock
  omega

theorem isFigure_of_isDigit
    {c : Char}
    (digit : isDigit c = true) :
    isFigure c = true := by
  simp [isFigure, digit]

end Daybook.Text
