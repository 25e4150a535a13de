/-!
Contract: texts as lists of characters, and the white space around them.

Owns:
- the type `Text`;
- the set of blank characters;
- stripping a class of characters from both ends of a text;
- the small form of a Latin capital.

Does not own: digits, quoting, or the meaning of any particular text.
-/

namespace Daybook

/-- A text is the list of its characters, in reading order. -/
abbrev Text := List Char

namespace Text

/-- Blank characters: the Unicode spaces and separators, the line and page controls, and the four
information separators U+001C to U+001F.  Zero-width characters are not blank. -/
def isBlank (c : Char) : Bool :=
  let code := c.toNat
  (9 ≤ code && code ≤ 13) || (28 ≤ code && code ≤ 32) || code == 0x85 || code == 0xA0 ||
    code == 0x1680 || (0x2000 ≤ code && code ≤ 0x200A) || code == 0x2028 || code == 0x2029 ||
    code == 0x202F || code == 0x205F || code == 0x3000

/-- Removes the longest run of characters in the class from the end of a text. -/
def stripEnd (inClass : Char → Bool) (text : Text) : Text :=
  (text.reverse.dropWhile inClass).reverse

/-- Removes the longest run of characters in the class from each end of a text. -/
def strip (inClass : Char → Bool) (text : Text) : Text :=
  stripEnd inClass (text.dropWhile inClass)

/-- A text without the blanks around it. -/
def trim (text : Text) : Text :=
  strip isBlank text

/-- A text of blanks only, the empty text among them. -/
def isBlankText (text : Text) : Bool :=
  text.all isBlank

/-- The letter's small form, for the twenty-six Latin capitals only. -/
def toSmall (c : Char) : Char :=
  if 'A' ≤ c ∧ c ≤ 'Z' then Char.ofNat (c.toNat + 32) else c

end Text

end Daybook
