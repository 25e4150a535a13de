/-!
Contract: numbers with a fraction, held as sixty-four bits.

Owns:
- the type `Binary64` and its parts: sign, significand and exponent;
- the classes of values (infinite, undefined, zero);
- the whole number that is left when the fraction is cut off.

Does not own: arithmetic on such numbers, or their decimal text.
-/

namespace Daybook

/-- A number in the double precision binary format, given by its bits: one for the sign, eleven for
the exponent and fifty-two for the fraction. -/
structure Binary64 where
  bits : UInt64
  deriving DecidableEq, Repr

namespace Binary64

def isNegative (x : Binary64) : Bool :=
  x.bits.toNat / Nat.pow 2 63 == 1

/-- The eleven bits of the exponent. -/
def exponentField (x : Binary64) : Nat :=
  x.bits.toNat / Nat.pow 2 52 % Nat.pow 2 11

/-- The fifty-two bits of the fraction. -/
def fractionField (x : Binary64) : Nat :=
  x.bits.toNat % Nat.pow 2 52

def isInfinite (x : Binary64) : Bool :=
  x.exponentField == 2047 && x.fractionField == 0

/-- Whether the bits stand for no number at all. -/
def isUndefined (x : Binary64) : Bool :=
  x.exponentField == 2047 && x.fractionField != 0

/-- The whole factor of a finite number, whose size is `significand * 2 ^ exponent`. -/
def significand (x : Binary64) : Nat :=
  if x.exponentField = 0 then x.fractionField else x.fractionField + Nat.pow 2 52

/-- The power of two of a finite number. -/
def exponent (x : Binary64) : Int :=
  if x.exponentField = 0 then -1074 else (x.exponentField : Int) - 1075

/-- Whether the number is zero, of either sign. -/
def isZero (x : Binary64) : Bool :=
  x.exponentField == 0 && x.fractionField == 0

/-- The size of a finite number without its fraction. -/
def wholeSize (x : Binary64) : Nat :=
  if 0 ≤ x.exponent then
    x.significand * Nat.pow 2 x.exponent.toNat
  else
    x.significand / Nat.pow 2 (-x.exponent).toNat

/-- A finite number without its fraction: the whole number next to it on the side of zero. -/
def truncate (x : Binary64) : Int :=
  if x.isNegative then -(x.wholeSize : Int) else x.wholeSize

end Binary64

end Daybook
