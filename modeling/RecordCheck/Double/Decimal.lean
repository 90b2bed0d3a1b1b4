import RecordCheck.Double.Rounding

/-!
# Decimals that stand for a double

A `Decimal` is a natural number times a power of ten. `Double.shortest` gives the decimal with the fewest digits
that reads back as a given finite double, and of those the one nearest to it. For each number of digits only
the two neighbours of the double on that grid are tried: a point of the grid that reads back has one of them
between itself and the double.
-/

namespace RecordCheck

/-- The number `coefficient * 10 ^ exponent`. -/
structure Decimal where
  coefficient : Nat
  exponent : Int
deriving DecidableEq

/-- What to do when two decimals are equally near. -/
inductive Tie where
  | awayFromZero
  | toEven
deriving DecidableEq

namespace Decimal

/-- The numerator of the value as a fraction. -/
def num (d : Decimal) : Nat := d.coefficient * Nat.pow 10 d.exponent.toNat

/-- The denominator of the value as a fraction. -/
def den (d : Decimal) : Nat := Nat.pow 10 (-d.exponent).toNat

/-- The nearest double. -/
def toDouble (negative : Bool) (d : Decimal) : Double := Double.nearest negative d.num d.den

/-- The digits of the coefficient. -/
def digits (d : Decimal) : List Char := Nat.toDigits 10 d.coefficient

/-- How many digits stand before the point when the decimal is written out. -/
def point (d : Decimal) : Int := d.digits.length + d.exponent

/-- The digits without the zeros at their end. -/
def significant (d : Decimal) : List Char := (d.digits.reverse.dropWhile (· = '0')).reverse

end Decimal

namespace Double

/--
How many digits stand before the point when the double is written out, negative if zeros follow the point.
Every finite double other than zero exceeds `10 ^ -324`, so the scaled value is at least one.
-/
def pointPlace (x : Double) : Int :=
  ((Nat.toDigits 10 (x.units * Nat.pow 10 324 / unitsPerOne)).length : Int) - 324

/--
Of the decimals with the given number of digits, the one nearest to the double among its two neighbours that
read back as the double; `none` if neither does.
-/
def nearestOnGrid? (tie : Tie) (x : Double) (precision : Nat) : Option Decimal :=
  let exponent := x.pointPlace - precision
  let num := x.units * Nat.pow 10 (-exponent).toNat
  let den := unitsPerOne * Nat.pow 10 exponent.toNat
  let below : Decimal := ⟨num / den, exponent⟩
  let above : Decimal := ⟨num / den + 1, exponent⟩
  let remainder := num % den
  let closerBelow : Bool :=
    if 2 * remainder = den then
      match tie with
      | .awayFromZero => false
      | .toEven => below.coefficient % 2 = 0
    else 2 * remainder < den
  match decide (below.toDouble x.negative = x), decide (above.toDouble x.negative = x) with
  | true, true => some (if closerBelow then below else above)
  | true, false => some below
  | false, true => some above
  | false, false => none

/-- All digits of a finite double. -/
def exactDecimal (x : Double) : Decimal := ⟨x.units * Nat.pow 5 1074, -1074⟩

/--
The shortest decimal that reads back as the given finite double. Seventeen digits always suffice; the exact
expansion stands behind them so that the definition needs no proof of it.
-/
def shortest (tie : Tie) (x : Double) : Decimal :=
  ((List.range 17).findSome? fun i => x.nearestOnGrid? tie (i + 1)).getD x.exactDecimal

end Double

end RecordCheck
