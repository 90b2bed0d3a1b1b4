import RecordCheck.Double.Decimal

/-!
# The text of a double

A `Layout` holds the decisions of a number format: where plain positional notation ends, how an exponent is
written, and how whole numbers and zeros look. `Double.text` writes the shortest digits of a double in a layout.
-/

namespace RecordCheck

/-- The decisions of a number format. -/
structure Layout where
  /-- the least place of the point that is written positionally -/
  leastPoint : Int
  /-- the greatest place of the point that is written positionally -/
  greatestPoint : Int
  /-- whether a whole number in positional notation ends in a point and a zero -/
  pointZero : Bool
  /-- whether an exponent that is not negative has a sign -/
  exponentPlus : Bool
  /-- whether a negative zero has a sign -/
  signedZero : Bool
  /-- which of two equally near decimals is written -/
  tie : Tie

namespace Layout

/-- Digits in plain notation, with `point` of them before the point. -/
def positional (layout : Layout) (digits : List Char) (point : Int) : List Char :=
  if point ≤ 0 then '0' :: '.' :: List.replicate (-point).toNat '0' ++ digits
  else if digits.length ≤ point.toNat then
    digits ++ List.replicate (point.toNat - digits.length) '0' ++
      (if layout.pointZero then ['.', '0'] else [])
  else digits.take point.toNat ++ '.' :: digits.drop point.toNat

/-- Digits in exponent notation, with one digit before the point. -/
def scientific (layout : Layout) (digits : List Char) (point : Int) : List Char :=
  let exponent := point - 1
  let mantissa :=
    match digits with
    | [] => []
    | [digit] => [digit]
    | digit :: rest => digit :: '.' :: rest
  let sign := if exponent < 0 then ['-'] else if layout.exponentPlus then ['+'] else []
  mantissa ++ 'e' :: sign ++ Nat.toDigits 10 exponent.natAbs

/-- The digits of a number whose point stands after `point` of them. -/
def write (layout : Layout) (digits : List Char) (point : Int) : List Char :=
  if layout.leastPoint ≤ point ∧ point ≤ layout.greatestPoint then layout.positional digits point
  else layout.scientific digits point

end Layout

namespace Double

/-- The characters of the absolute value of a finite double. -/
def writeAbs (layout : Layout) (x : Double) : List Char :=
  if x.isZero then layout.write ['0'] 1
  else
    let decimal := x.shortest layout.tie
    layout.write decimal.significant decimal.point

/-- The text of a double. -/
def text (layout : Layout) (x : Double) : String :=
  if x.isNaN then "NaN"
  else
    let sign := if x.negative && (layout.signedZero || !x.isZero) then "-" else ""
    if x.isInfinite then sign ++ "Infinity"
    else sign ++ String.ofList (x.writeAbs layout)

/-- Both zeros have one text in a layout that does not write the sign of a zero. -/
theorem text_of_isZero {layout : Layout} (unsigned : layout.signedZero = false) {x : Double}
    (zero : x.isZero = true) : x.text layout = String.ofList (layout.write ['0'] 1) := by
  have magnitude : x.magnitude = 0 := of_decide_eq_true zero
  have number : x.isNaN = false := by simp [isNaN, magnitude]
  have finite : x.isInfinite = false := by
    rw [isInfinite, magnitude]
    rfl
  simp [text, number, finite, unsigned, zero, writeAbs]

end Double

end RecordCheck
