import Daybook.Decimal.Binary64
import Daybook.Text.Numeral

/-!
Contract: the shortest decimal text that reads back as the same number.

Owns:
- the interval of reals that round to a given number;
- the search for the fewest digits inside it;
- the layout of those digits, positional or with an exponent.

Does not own: reading decimals.
-/

namespace Daybook.Binary64

/-- Digits and a power of ten: the decimal `digits * 10 ^ exponent`. -/
structure Decimal where
  digits : Nat
  exponent : Int
  deriving DecidableEq, Repr

/-- A positive finite number as a quotient in units of `10 ^ exponent`, together with the interval
of reals that round to it.  All four share one denominator. -/
structure Grid where
  low : Nat
  value : Nat
  high : Nat
  denominator : Nat
  closed : Bool

/-- The grid of decimals with the given power of ten around a positive finite number.  The gap
below a power of two is half the gap above it. -/
def grid (x : Binary64) (exponent : Int) : Grid :=
  let quarter := x.exponent - 2
  let scale := Nat.pow 2 quarter.toNat * Nat.pow 10 (-exponent).toNat
  let below := if x.fractionField = 0 ∧ 1 < x.exponentField then 1 else 2
  { low := (4 * x.significand - below) * scale
    value := 4 * x.significand * scale
    high := (4 * x.significand + 2) * scale
    denominator := Nat.pow 2 (-quarter).toNat * Nat.pow 10 exponent.toNat
    closed := x.significand % 2 = 0 }

/-- Whether the decimal with the given digits lies in the interval of the grid. -/
def Grid.holds (g : Grid) (digits : Nat) : Bool :=
  let point := digits * g.denominator
  if g.closed then g.low ≤ point && point ≤ g.high else g.low < point && point < g.high

/-- The grid point nearest to the number among those in its interval; of two equally near points
the even one. -/
def Grid.nearest? (g : Grid) : Option Nat :=
  let down := g.value / g.denominator
  let up := down + 1
  match g.holds down, g.holds up with
  | false, false => none
  | true, false => some down
  | false, true => some up
  | true, true =>
    let rest := g.value % g.denominator
    if 2 * rest < g.denominator ∨ (2 * rest = g.denominator ∧ down % 2 = 0) then some down
    else some up

/-- The power of ten of the leading digit of a positive finite number. -/
def leadingExponent (x : Binary64) : Int :=
  let scaled :=
    if 0 ≤ x.exponent then x.significand * Nat.pow 2 x.exponent.toNat * Nat.pow 10 400
    else x.significand * Nat.pow 10 400 / Nat.pow 2 (-x.exponent).toNat
  ((Text.ofNat scaled).length : Int) - 401

/-- The decimal with the fewest digits that rounds to a positive finite number. -/
def shortest (x : Binary64) : Decimal :=
  let leading := x.leadingExponent
  let candidate := (List.range 17).findSome? fun (more : Nat) =>
    let exponent := leading - more
    (x.grid exponent).nearest?.map fun digits => Decimal.mk digits exponent
  candidate.getD ⟨0, 0⟩

/-- Positional notation of digits whose first stands at the power `leading` of ten; a whole number
keeps one zero after the point. -/
def positional (digits : Text) (leading : Int) : Text :=
  if leading < 0 then
    '0' :: '.' :: List.replicate (-leading - 1).toNat '0' ++ digits
  else
    let count := leading.toNat + 1
    let whole := digits.take count ++ List.replicate (count - digits.length) '0'
    let fraction := digits.drop count
    whole ++ '.' :: (if fraction = [] then ['0'] else fraction)

/-- Notation with an exponent of at least two digits and always a sign. -/
def exponential (digits : Text) (leading : Int) : Text :=
  let fraction := digits.drop 1
  let point := if fraction = [] then [] else '.' :: fraction
  let sign := if leading < 0 then '-' else '+'
  digits.take 1 ++ point ++ 'e' :: sign :: Text.padded 2 leading.natAbs

/-- The text of the size of a finite number.  Numbers from `10 ^ -4` up to `10 ^ 16` are written
positionally. -/
def sizeText (x : Binary64) : Text :=
  if x.isZero then ['0', '.', '0']
  else
    let decimal := x.shortest
    let all := Text.ofNat decimal.digits
    let leading := decimal.exponent + all.length - 1
    let digits := Text.stripEnd (· == '0') all
    if -4 ≤ leading ∧ leading < 16 then positional digits leading else exponential digits leading

/-- The shortest text of a number. -/
def toText (x : Binary64) : Text :=
  if x.isUndefined then ['n', 'a', 'n']
  else
    let size := if x.isInfinite then ['i', 'n', 'f'] else x.sizeText
    if x.isNegative then '-' :: size else size

end Daybook.Binary64
