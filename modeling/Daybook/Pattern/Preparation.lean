import Daybook.Fault
import Daybook.Pattern.Marking

/-!
Contract: from a pattern in generic tokens to one that a date of a given calendar can be put into.

Owns:
- the six marking steps of the solar calendar and their order;
- the quarter's digits in place of its token, outside square brackets;
- the whole preparation, for any quarter and for one that has to be written.

Does not own: what the tokens mean.
-/

namespace Daybook.Pattern

/-- The tokens of several letters that the solar calendar marks, in the order of the steps. -/
def solarRules : List RunRule :=
  [⟨'M', 4⟩, ⟨'Y', 4⟩, ⟨'M', 2⟩, ⟨'D', 2⟩]

/-- The tokens of one letter that the solar calendar marks, in the order of the steps. -/
def solarLetters : List Char := ['M', 'D']

/-- The step that marks a token of one letter. -/
def markLetter (letter : Char) (text : Text) : Text :=
  replaceStanding [letter] [solarMark, letter] text

/-- The steps of the solar calendar, the longest tokens first. -/
def solarSteps : List (Text → Text) :=
  solarRules.map RunRule.apply ++ solarLetters.map markLetter

def applySteps (steps : List (Text → Text)) (text : Text) : Text :=
  steps.foldl (fun current step => step current) text

/-- Puts digits in place of every quarter token outside square brackets, at the given depth of
brackets.  Brackets nest, and a closing one without an opening one counts for nothing. -/
def substituteQuarterAt (digits : Text) (depth : Nat) : Text → Text
  | [] => []
  | c :: rest =>
    if c = '[' then c :: substituteQuarterAt digits (depth + 1) rest
    else if c = ']' then c :: substituteQuarterAt digits (depth - 1) rest
    else if c = 'Q' ∧ depth = 0 then digits ++ substituteQuarterAt digits depth rest
    else c :: substituteQuarterAt digits depth rest

/-- Puts a quarter in place of every quarter token outside square brackets. -/
def substituteQuarter (quarter : Int) (text : Text) : Text :=
  substituteQuarterAt (Text.ofInt quarter) 0 text

/-- Marks the tokens of a pattern as the calendar needs it. -/
def mark (system : CalendarSystem) (text : Text) : Text :=
  match system with
  | .solar => applySteps solarSteps text
  | .gregorian => text

/-- Prepares a generic pattern for a calendar, with the quarter put in if there is one. -/
def prepare (system : CalendarSystem) (quarter : Option Int) (pattern : Text) : Text :=
  let prepared := lowerWeeks (mark system pattern)
  match quarter with
  | some value => substituteQuarter value prepared
  | none => prepared

/-- Puts a quarter in, unless it has too many digits to be written. -/
def quarterPut (quarter : Int) (text : Text) : Except Fault Text := do
  Fault.writing [quarter]
  pure (substituteQuarter quarter text)

/-- The prepared pattern, unless the quarter has too many digits to be written. -/
def prepared (system : CalendarSystem) (quarter : Option Int) (pattern : Text) :
    Except Fault Text := do
  Fault.writing quarter.toList
  pure (prepare system quarter pattern)

end Daybook.Pattern
