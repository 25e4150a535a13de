import Daybook.Calendar.System
import Daybook.Pattern.Marking

/-!
Contract: how a prepared pattern is read: as tokens, bracketed literals and plain characters.

Owns:
- the types `Field`, `Token` and `Piece`;
- the division of a text into pieces, from the left, the longest token first.

Does not own: what a token is replaced by.
-/

namespace Daybook.Pattern

/-- The parts of a date that a token can name. -/
inductive Field where
  | year
  | monthName
  | paddedMonth
  | month
  | paddedDay
  | day
  deriving DecidableEq, Repr

/-- What a token stands for: a part of the date in one of the calendars, the week, or the
quarter. -/
inductive Token where
  | field (system : CalendarSystem) (field : Field)
  | week
  | quarter
  deriving DecidableEq, Repr

inductive Piece where
  | literal (text : Text)
  | token (token : Token)
  | plain (character : Char)
  deriving DecidableEq, Repr

namespace Field

/-- The field token at the head of a text, and the text after it; the longer token wins. -/
def scan? : Text → Option (Field × Text)
  | 'Y' :: 'Y' :: 'Y' :: 'Y' :: rest => some (.year, rest)
  | 'M' :: 'M' :: 'M' :: 'M' :: rest => some (.monthName, rest)
  | 'M' :: 'M' :: rest => some (.paddedMonth, rest)
  | 'M' :: rest => some (.month, rest)
  | 'D' :: 'D' :: rest => some (.paddedDay, rest)
  | 'D' :: rest => some (.day, rest)
  | _ => none

theorem length_lt_of_scan?
    {text rest : Text}
    {field : Field}
    (scanned : scan? text = some (field, rest)) :
    rest.length < text.length := by
  unfold scan? at scanned
  split at scanned <;> cases scanned <;> simp only [List.length_cons] <;> omega

end Field

/-- The text up to the first closing bracket, and the text after that bracket. -/
def untilClosing? : Text → Option (Text × Text)
  | [] => none
  | c :: rest =>
    if c = ']' then some ([], rest)
    else (untilClosing? rest).map fun found => (c :: found.1, found.2)

theorem length_lt_of_untilClosing?
    {text inner rest : Text}
    (closed : untilClosing? text = some (inner, rest)) :
    rest.length < text.length := by
  induction text generalizing inner rest with
  | nil => cases closed
  | cons c tail inductionHypothesis =>
    unfold untilClosing? at closed
    split at closed
    · cases closed
      simp
    · obtain ⟨found, tailClosed, equal⟩ := Option.map_eq_some_iff.1 closed
      cases equal
      have shorter := inductionHypothesis tailClosed
      simp only [List.length_cons]
      omega

namespace Piece

/-- The marked field token at the head of a text; only the solar calendar has such tokens. -/
def markedField? (system : CalendarSystem) : Text → Option (Field × Text)
  | c :: rest =>
    match system with
    | .solar => if c = solarMark then Field.scan? rest else none
    | .gregorian => none
  | [] => none

/-- The week or quarter token at the head of a text, and the text after it. -/
def ordinal? : Text → Option (Token × Text)
  | 'w' :: 'w' :: rest => some (.week, rest)
  | 'Q' :: rest => some (.quarter, rest)
  | _ => none

/-- The bracketed literal at the head of a text, and the text after it.  It ends at the first
closing bracket. -/
def literal? : Text → Option (Text × Text)
  | '[' :: rest => untilClosing? rest
  | _ => none

/-- The first piece of a text that is not empty, and the text after it. -/
def next (system : CalendarSystem) (c : Char) (rest : Text) : Piece × Text :=
  match literal? (c :: rest) with
  | some (inner, after) => (.literal inner, after)
  | none =>
    match markedField? system (c :: rest) with
    | some (field, after) => (.token (.field .solar field), after)
    | none =>
      match Field.scan? (c :: rest) with
      | some (field, after) => (.token (.field .gregorian field), after)
      | none =>
        match ordinal? (c :: rest) with
        | some (ordinal, after) => (.token ordinal, after)
        | none => (.plain c, rest)

/-- A piece takes at least one character away. -/
theorem length_next_le
    (system : CalendarSystem)
    (c : Char)
    (rest : Text) :
    (next system c rest).2.length ≤ rest.length := by
  unfold next
  split
  · rename_i inner after found
    unfold literal? at found
    split at found
    · rename_i tail equal
      cases equal
      exact Nat.le_of_lt (length_lt_of_untilClosing? found)
    · cases found
  · split
    · rename_i field after found
      simp only [markedField?] at found
      split at found
      · split at found
        · exact Nat.le_of_lt (Field.length_lt_of_scan? found)
        · cases found
      · cases found
    · split
      · rename_i field after found
        have shorter := Field.length_lt_of_scan? found
        simp only [List.length_cons] at shorter
        show after.length ≤ rest.length
        omega
      · split
        · rename_i ordinal after found
          unfold ordinal? at found
          split at found
          · rename_i equal
            cases equal
            cases found
            simp
          · rename_i equal
            cases equal
            cases found
            simp
          · cases found
        · exact Nat.le_refl _

end Piece

/-- The pieces of a text, as a date of the given calendar reads them. -/
def pieces (system : CalendarSystem) : Text → List Piece
  | [] => []
  | c :: rest => (Piece.next system c rest).1 :: pieces system (Piece.next system c rest).2
termination_by text => text.length
decreasing_by
  have shorter := Piece.length_next_le system c rest
  simp only [List.length_cons]
  omega

end Daybook.Pattern
