import Daybook.Text.Printable

/-!
Contract: the quoted form of a text in a message.

Owns:
- the choice of the quotation mark;
- the escapes of marks, backslashes, line controls and characters that cannot be shown.

Does not own: the messages that quote texts, or quoting in any other output format.
-/

namespace Daybook.Text

/-- The digits of a code in base sixteen, filled up with zeros to the given width. -/
def hexPadded (width : Nat) (code : Nat) : Text :=
  let digits := Nat.toDigits 16 code
  List.replicate (width - digits.length) '0' ++ digits

/-- The mark around a quoted text: the single one, unless the text holds that one and not the
double one. -/
def quotationMark (text : Text) : Char :=
  if text.contains '\'' && !text.contains '"' then '"' else '\''

/-- One character inside quotation marks. -/
def escape (mark : Char) (c : Char) : Text :=
  if c = mark ∨ c = '\\' then ['\\', c]
  else if c = '\n' then ['\\', 'n']
  else if c = '\r' then ['\\', 'r']
  else if c = '\t' then ['\\', 't']
  else if isPrintable c then [c]
  else if c.toNat ≤ 0xFF then '\\' :: 'x' :: hexPadded 2 c.toNat
  else if c.toNat ≤ 0xFFFF then '\\' :: 'u' :: hexPadded 4 c.toNat
  else '\\' :: 'U' :: hexPadded 8 c.toNat

/-- A text between quotation marks, so that every character in it can be seen. -/
def quoted (text : Text) : Text :=
  let mark := quotationMark text
  mark :: text.flatMap (escape mark) ++ [mark]

end Daybook.Text
