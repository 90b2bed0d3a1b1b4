import RecordCheck.Double

/-!
# Rounding to the nearest double

`Double.nearest` takes an exact quotient of natural numbers to the nearest double, a tie to the one whose
magnitude is even. The quotient is first counted in units of `2 ^ -1074`. The size of that count fixes the
binade and with it the spacing of the doubles there, and one rounded quotient gives the place in the binade.
Adding the place to the start of the binade carries into the next one by itself, so the smallest doubles and
the powers of two need no case of their own.
-/

namespace RecordCheck

/-- The integer nearest to `num / den`; a tie goes to the even one. -/
def roundHalfEven (num den : Nat) : Nat :=
  let quotient := num / den
  let remainder := num % den
  if 2 * remainder < den then quotient
  else if den < 2 * remainder then quotient + 1
  else if quotient % 2 = 0 then quotient
  else quotient + 1

namespace Double

/-- The magnitude of the double nearest to `num / den`, infinite from the overflow threshold on. -/
def nearestMagnitude (num den : Nat) : Nat :=
  let scaled := num * unitsPerOne
  let binade := (scaled / den).log2 - 52
  min (binade * binadeSize + roundHalfEven scaled (den * Nat.pow 2 binade)) infinityMagnitude

theorem nearestMagnitude_lt (num den : Nat) : nearestMagnitude num den < Nat.pow 2 63 :=
  Nat.lt_of_le_of_lt (Nat.min_le_right _ _) infinityMagnitude_lt

/-- The double nearest to `num / den`, with the given sign. -/
def nearest (negative : Bool) (num den : Nat) : Double :=
  ⟨negative, nearestMagnitude num den, nearestMagnitude_lt num den⟩

/-- The double nearest to an integer. -/
def ofInt (n : Int) : Double := nearest (decide (n < 0)) n.natAbs 1

/-- The double nearest to the exact product. -/
def mul (x y : Double) : Double :=
  let negative := x.negative != y.negative
  if x.isNaN || y.isNaN then nan
  else if x.isInfinite || y.isInfinite then
    if x.isZero || y.isZero then nan else infinity negative
  else nearest negative (x.units * y.units) (unitsPerOne * unitsPerOne)

/-- The double nearest to the exact quotient. -/
def div (x y : Double) : Double :=
  let negative := x.negative != y.negative
  if x.isNaN || y.isNaN then nan
  else if x.isInfinite then
    if y.isInfinite then nan else infinity negative
  else if y.isInfinite then zero negative
  else if y.isZero then
    if x.isZero then nan else infinity negative
  else nearest negative x.units y.units

end Double

end RecordCheck
