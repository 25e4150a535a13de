import Daybook.DateParts
import Daybook.Path.Folder

/-!
Contract: finding the date of a note in a text, by its form alone.

Owns:
- the three forms that are looked for, and their order;
- the leftmost place where a form is found;
- the figures of the date that the form shows, and the parts that they spell.

Does not own: the pattern that the text was made with, which has no influence.
-/

namespace Daybook.Path

/-- The parts of a date as a text shows them, each a run of figures. -/
structure DateFigures where
  year : Text
  month : Option Text
  day : Option Text
  week : Option Text
  quarter : Option Text
  deriving DecidableEq, Repr

namespace DateFigures

/-- The number that figures spell.  Among them may be digits that have no value; then there is no
number. -/
def number (figures : Text) : Except Fault Int :=
  if figures.all Text.isDigit then .ok (Text.digitsValue figures)
  else .error (.numeral figures .malformed)

/-- The number that figures spell, if they are there at all. -/
def optionalNumber : Option Text → Except Fault (Option Int)
  | some figures => do pure (some (← number figures))
  | none => .ok none

/-- The parts of the date that is shown, read from the year down; a month that is not shown is the
first. -/
def parts (figures : DateFigures) : Except Fault DateParts := do
  let year ← number figures.year
  let month ← optionalNumber figures.month
  let day ← optionalNumber figures.day
  let week ← optionalNumber figures.week
  let quarter ← optionalNumber figures.quarter
  pure ⟨year, some (month.getD 1), day, week, quarter⟩

end DateFigures

/-- The four figures at the head of a text, and the text after them. -/
def fourFigures? : Text → Option (Text × Text)
  | a :: b :: c :: d :: rest =>
    if [a, b, c, d].all Text.isFigure then some ([a, b, c, d], rest) else none
  | _ => none

/-- The text after one separator of date parts, if there is one at its head. -/
def skipJoint : Text → Text
  | c :: rest => if c = '/' ∨ c = '-' then rest else c :: rest
  | [] => []

/-- One or two figures at the head of a text, two if there are as many, and the text after them. -/
def fewFigures? : Text → Option (Text × Text)
  | a :: b :: rest =>
    if Text.isFigure a then
      if Text.isFigure b then some ([a, b], rest) else some ([a], b :: rest)
    else none
  | [a] => if Text.isFigure a then some ([a], []) else none
  | [] => none

/-- A year and a week at the head of a text, such as `1403-W32`. -/
def weekAt? (text : Text) : Option DateFigures :=
  match fourFigures? text with
  | some (year, afterYear) =>
    match skipJoint afterYear with
    | 'W' :: rest => (fewFigures? rest).map fun found => ⟨year, none, none, some found.1, none⟩
    | _ => none
  | none => none

/-- A year and a quarter at the head of a text, such as `1403-Q3`; the quarter is one figure. -/
def quarterAt? (text : Text) : Option DateFigures :=
  match fourFigures? text with
  | some (year, afterYear) =>
    match skipJoint afterYear with
    | 'Q' :: figure :: _ =>
      if Text.isFigure figure then some ⟨year, none, none, none, some [figure]⟩ else none
    | _ => none
  | none => none

/-- A year at the head of a text, with the month and the day that may follow it. -/
def dateAt? (text : Text) : Option DateFigures :=
  match fourFigures? text with
  | some (year, afterYear) =>
    let month := fewFigures? (skipJoint afterYear)
    let afterMonth :=
      match month with
      | some (_, rest) => rest
      | none => skipJoint afterYear
    let day := fewFigures? (skipJoint afterMonth)
    some ⟨year, month.map Prod.fst, day.map Prod.fst, none, none⟩
  | none => none

/-- What a form finds at the leftmost place of a text where it finds anything. -/
def leftmost? (form : Text → Option DateFigures) : Text → Option DateFigures
  | [] => form []
  | c :: rest =>
    match form (c :: rest) with
    | some found => some found
    | none => leftmost? form rest

/-- A form of dates with its name and its rank. -/
structure DateForm where
  name : Text
  rank : Nat
  at? : Text → Option DateFigures

/-- The forms in the order in which they are tried, from the highest rank down.  The last one finds
a date wherever the others do. -/
def dateForms : List DateForm :=
  [⟨"week".toList, 30, weekAt?⟩,
   ⟨"quarter".toList, 20, quarterAt?⟩,
   ⟨"year_month_day".toList, 10, dateAt?⟩]

/-- The figures of the date that a text shows: those of the first form which is found anywhere in
it. -/
def shown? (text : Text) : Option DateFigures :=
  dateForms.findSome? fun form => leftmost? form.at? text

/-- The date that a text shows, if it shows one.  The form is settled before a figure is read, so
figures without a value are a fault and not the lack of a date. -/
def recover? (text : Text) : Except Fault (Option DateParts) :=
  match shown? text with
  | some figures => do pure (some (← figures.parts))
  | none => .ok none

/-- The date that the path of a note shows, if the note lies in the base folder. -/
def dateOf? (base path : Text) : Except Fault (Option DateParts) :=
  match insideBase? base path with
  | some text => recover? text
  | none => .ok none

end Daybook.Path
