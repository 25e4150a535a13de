import Daybook.Text.Basic

/-!
Contract: the single steps that turn the generic tokens of a pattern into solar ones.

Owns:
- the mark that a solar token carries in front;
- the rule that marks a run of one letter where it stands alone;
- the replacement of a single letter where it stands alone;
- the small form of week tokens.

Does not own: which steps a calendar needs, and their order.
-/

namespace Daybook.Pattern

/-- The mark in front of a token that is read in the solar calendar. -/
def solarMark : Char := 's'

/-- Whether a run of the letter can begin after the given character: that one is neither the mark
nor the letter itself. -/
def opensRun (letter : Char) (before : Option Char) : Bool :=
  before != some solarMark && before != some letter

/-- A token of several times the same letter. -/
structure RunRule where
  letter : Char
  size : Nat
  deriving DecidableEq, Repr

namespace RunRule

def token (rule : RunRule) : Text :=
  List.replicate rule.size rule.letter

/-- Whether the token stands alone at the head of a text: it opens a run, and the letter does not
follow it. -/
def standsAt (rule : RunRule) (before : Option Char) (text : Text) : Bool :=
  opensRun rule.letter before && rule.token.isPrefixOf text &&
    (text.drop rule.size).head? != some rule.letter

/-- Marks the token wherever it stands alone in a text that follows the given character. -/
def applyAfter (rule : RunRule) (before : Option Char) : Text → Text
  | [] => []
  | c :: rest =>
    if rule.standsAt before (c :: rest) then
      solarMark :: c :: applyAfter rule (some c) rest
    else
      c :: applyAfter rule (some c) rest

/-- Marks the token wherever it stands alone. -/
def apply (rule : RunRule) (text : Text) : Text :=
  rule.applyAfter none text

end RunRule

/-- Replaces a letter wherever it stands alone in a text that follows the given character. -/
def replaceLetterAfter (letter : Char) (replacement : Text) (before : Option Char) : Text → Text
  | [] => []
  | c :: rest =>
    if c = letter ∧ opensRun letter before ∧ rest.head? ≠ some letter then
      replacement ++ replaceLetterAfter letter replacement (some c) rest
    else
      c :: replaceLetterAfter letter replacement (some c) rest

/-- Replaces a token of one letter wherever it stands alone; a token of any other length never
does. -/
def replaceStanding (token : Text) (replacement : Text) (text : Text) : Text :=
  match token with
  | [letter] => replaceLetterAfter letter replacement none text
  | _ => text

/-- Writes pairs of the week letter small, from the left. -/
def lowerWeeks : Text → Text
  | 'W' :: 'W' :: rest => 'w' :: 'w' :: lowerWeeks rest
  | c :: rest => c :: lowerWeeks rest
  | [] => []

end Daybook.Pattern
