import Daybook.Text.Digit

/-!
Contract: how solar dates are put into words and digits.

Owns:
- the two dialects and their names;
- the names of the solar months in each dialect, and those of the Gregorian months;
- the choice between Persian digits and the plain ones.

Does not own: when a locale is chosen, or which numbers it applies to.
-/

namespace Daybook

/-- The languages of the names of solar months. -/
inductive Dialect where
  | persianModern
  | english
  deriving DecidableEq, Repr

namespace Dialect

def name : Dialect → Text
  | persianModern => "persian-modern".toList
  | english => "english".toList

/-- All dialects, in the order in which messages list them. -/
def all : List Dialect := [persianModern, english]

/-- The dialect with exactly the given name. -/
def ofName? (given : Text) : Option Dialect :=
  all.find? fun dialect => dialect.name == given

/-- The names of all dialects as one text. -/
def choices : Text :=
  persianModern.name ++ ", ".toList ++ english.name

theorem ofName?_name (dialect : Dialect) : ofName? dialect.name = some dialect := by
  cases dialect <;> decide

end Dialect

/-- The names of the Gregorian months, from January on. -/
def gregorianMonthNames : List Text :=
  ["January", "February", "March", "April", "May", "June", "July", "August", "September",
    "October", "November", "December"].map String.toList

/-- How solar dates are written. -/
structure Locale where
  persianDigits : Bool
  dialect : Dialect
  deriving DecidableEq, Repr

namespace Locale

/-- The locale that is used when none was chosen: plain digits and Persian month names. -/
def standard : Locale :=
  ⟨false, .persianModern⟩

/-- The names of the solar months, from the first one on. -/
def monthNames (locale : Locale) : List Text :=
  match locale.dialect with
  | .persianModern =>
    ["فروردین", "اردیبهشت", "خرداد", "تیر", "مرداد", "شهریور", "مهر", "آبان", "آذر", "دی",
      "بهمن", "اسفند"].map String.toList
  | .english =>
    ["Farvardin", "Ordibehesht", "Khordad", "Tir", "Mordad", "Shahrivar", "Mehr", "Aban", "Azar",
      "Dey", "Bahman", "Esfand"].map String.toList

def digits (locale : Locale) (text : Text) : Text :=
  if locale.persianDigits then text.map Text.toPersianDigit else text

theorem length_digits
    (locale : Locale)
    (text : Text) :
    (locale.digits text).length = text.length := by
  unfold digits
  split <;> simp

end Locale

end Daybook
