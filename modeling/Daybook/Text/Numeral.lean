import Daybook.Text.Digit

/-!
Contract: whole numbers as texts, in both directions.

Owns:
- the decimal spelling of a whole number, plain and padded with zeros;
- the count of digits up to which numbers are read and written;
- the reading of a number from a text that a person typed, and the flaws it can have.

Does not own: the wording that reports a flaw, or numbers with a fraction.
-/

namespace Daybook.Text

/-- The decimal digits of a number, without leading zeros; zero is one digit. -/
def ofNat (n : Nat) : Text :=
  Nat.toDigits 10 n

/-- The decimal spelling of a whole number of any length, a minus sign before the digits of a
negative one. -/
def ofInt : Int → Text
  | .ofNat n => ofNat n
  | .negSucc n => '-' :: ofNat (n + 1)

/-- The digits of a number, filled up with zeros from the left to at least the given width. -/
def padded (width : Nat) (n : Nat) : Text :=
  let digits := ofNat n
  List.replicate (width - digits.length) '0' ++ digits

/-- The greatest count of digits with which a number is read or written. -/
def digitLimit : Nat := 4300

/-- Whether a whole number has few enough digits to be written; a sign is no digit. -/
def isWritable (n : Int) : Bool :=
  (ofNat n.natAbs).length ≤ digitLimit

/-- Why a text is not a number that can be read. -/
inductive NumeralFlaw where
  /-- The text does not have the form of a whole number. -/
  | malformed
  /-- The number has more digits than are read; the count is of digits alone. -/
  | tooLong (digits : Nat)
  deriving DecidableEq, Repr

/-- Space around a number: the usual blanks, the information separators excepted. -/
def isNumeralSpace (c : Char) : Bool :=
  isBlank c && !(28 ≤ c.toNat && c.toNat ≤ 31)

/-- The character that may stand between two digits to group them. -/
def isDigitOrMark (c : Char) : Bool :=
  isDigit c || c == '_'

/-- Whether every grouping mark of a run has a digit on either side. -/
def marksSeparate (afterDigit : Bool) : Text → Bool
  | [] => afterDigit
  | c :: rest =>
    if c = '_' then afterDigit && marksSeparate false rest else marksSeparate true rest

/-- Splits a sign off the front; without one the number is not negative. -/
def splitSign : Text → Bool × Text
  | '-' :: rest => (true, rest)
  | '+' :: rest => (false, rest)
  | text => (false, text)

/-- Reads a whole number: space, an optional sign, digits of any script with single grouping marks
between them, space.  The length limit is looked at before anything after the digits. -/
def readInt (text : Text) : Except NumeralFlaw Int :=
  let (negative, unsigned) := splitSign (text.dropWhile isNumeralSpace)
  let run := unsigned.takeWhile isDigitOrMark
  let digits := run.filter isDigit
  if !marksSeparate false run then
    .error .malformed
  else if digitLimit < digits.length then
    .error (.tooLong digits.length)
  else if (unsigned.dropWhile isDigitOrMark).all isNumeralSpace then
    .ok (if negative then -(digitsValue digits : Int) else digitsValue digits)
  else
    .error .malformed

end Daybook.Text
