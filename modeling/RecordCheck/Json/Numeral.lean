import RecordCheck.Double.Decimal
import RecordCheck.Json

/-!
# Numerals

A `Numeral` is a number as it is written in a document. Its value is an integer if it is written as one and fits 64
bits. Otherwise the digits fill a 64-bit significand until the next one would not fit, and the significand, rounded
to a double, is multiplied or divided once by a power of ten. The result can differ from the nearest double
in its last place. A value beyond all finite doubles is refused.
-/

namespace RecordCheck.Json

/-- A number as it is written; a fraction or an exponent that is not there is an empty list. -/
structure Numeral where
  negative : Bool
  whole : List Nat
  fraction : List Nat
  exponentNegative : Bool
  exponent : List Nat
deriving DecidableEq

/-- Whether the character is a decimal digit of ASCII. -/
def isDigit (c : Char) : Bool := decide ('0' ≤ c ∧ c ≤ '9')

/-- The number that a digit stands for. -/
def digitValue (c : Char) : Nat := c.toNat - '0'.toNat

/-- The digits at the start of a text, and what follows them. -/
def digits (cs : List Char) : List Nat × List Char :=
  ((cs.takeWhile isDigit).map digitValue, cs.dropWhile isDigit)

theorem digits_length (cs : List Char) : (digits cs).1.length + (digits cs).2.length = cs.length := by
  simp only [digits, List.length_map]
  rw [← List.length_append, List.takeWhile_append_dropWhile]

theorem digits_length_le (cs : List Char) : (digits cs).2.length ≤ cs.length := by
  have := digits_length cs
  omega

namespace Numeral

/-- A point with at least one digit after it, or nothing. -/
def fraction? : List Char → Option (List Nat × List Char)
  | '.' :: rest =>
      match digits rest with
      | ([], _) => none
      | found => some found
  | cs => some ([], cs)

/-- The sign of an exponent; without one it is positive. -/
def exponentSign : List Char → Bool × List Char
  | '+' :: rest => (false, rest)
  | '-' :: rest => (true, rest)
  | cs => (false, cs)

/-- The letter of an exponent with a sign and at least one digit after it, or nothing. -/
def exponent? : List Char → Option (Bool × List Nat × List Char)
  | [] => some (false, [], [])
  | c :: rest =>
      if c = 'e' ∨ c = 'E' then
        match digits (exponentSign rest).2 with
        | ([], _) => none
        | (ds, after) => some ((exponentSign rest).1, ds, after)
      else some (false, [], c :: rest)

/-- The numeral at the start of a text; a zero before other digits is refused. -/
def unsigned? (negative : Bool) (cs : List Char) : Option (Numeral × List Char) :=
  match digits cs with
  | ([], _) => none
  | (0 :: _ :: _, _) => none
  | (whole, rest) =>
      match fraction? rest with
      | none => none
      | some (fraction, rest) =>
          match exponent? rest with
          | none => none
          | some (exponentNegative, exponent, rest) =>
              some (⟨negative, whole, fraction, exponentNegative, exponent⟩, rest)

/-- The numeral at the start of a text. -/
def scan? : List Char → Option (Numeral × List Char)
  | '-' :: rest => unsigned? true rest
  | cs => unsigned? false cs

theorem fraction?_length {cs : List Char} {ds : List Nat} {rest : List Char}
    (h : fraction? cs = some (ds, rest)) : rest.length ≤ cs.length := by
  unfold fraction? at h
  split at h
  · rename_i after
    have shorter := digits_length_le after
    split at h
    · cases h
    · simp only [Option.some.injEq] at h
      rw [h] at shorter
      simp only [List.length_cons] at shorter ⊢
      omega
  · cases h
    exact Nat.le_refl _

theorem exponentSign_length (cs : List Char) : (exponentSign cs).2.length ≤ cs.length := by
  unfold exponentSign
  split <;> simp

theorem exponent?_length {cs : List Char} {negative : Bool} {ds : List Nat} {rest : List Char}
    (h : exponent? cs = some (negative, ds, rest)) : rest.length ≤ cs.length := by
  unfold exponent? at h
  split at h
  · cases h
    exact Nat.le_refl _
  · rename_i c after
    have shorter := digits_length_le (exponentSign after).2
    have signed := exponentSign_length after
    split at h
    · split at h
      · cases h
      · rename_i found
        rw [found] at shorter
        cases h
        simp only [List.length_cons] at shorter ⊢
        omega
    · cases h
      exact Nat.le_refl _

theorem unsigned?_length {negative : Bool} {cs : List Char} {numeral : Numeral} {rest : List Char}
    (h : unsigned? negative cs = some (numeral, rest)) : rest.length < cs.length := by
  have total := digits_length cs
  unfold unsigned? at h
  split at h
  · cases h
  · cases h
  · rename_i whole after notEmpty notZero found
    rw [found] at total
    split at h
    · cases h
    · rename_i fraction afterFraction hf
      split at h
      · cases h
      · rename_i exponentNegative exponent afterExponent he
        cases h
        have first := fraction?_length hf
        have second := exponent?_length he
        have := List.length_pos_iff.mpr notEmpty
        simp only at total
        omega

theorem scan?_length {cs : List Char} {numeral : Numeral} {rest : List Char}
    (h : scan? cs = some (numeral, rest)) : rest.length < cs.length := by
  unfold scan? at h
  split at h
  · have := unsigned?_length h
    simp only [List.length_cons]
    omega
  · exact unsigned?_length h

/-- The number that digits stand for. -/
def ofDigits (ds : List Nat) : Nat := ds.foldl (fun n d => n * 10 + d) 0

/-- A significand of 64 bits. -/
def significandLimit : Nat := Nat.pow 2 64

/-- Digits before the point: the significand they fill, and how many are left when the next does not fit. -/
def fillWhole (significand : Nat) : List Nat → Nat × Nat
  | [] => (significand, 0)
  | d :: ds =>
      if significand * 10 + d < significandLimit then fillWhole (significand * 10 + d) ds
      else (significand, ds.length + 1)

/-- Digits after the point: the significand they fill, and how many of them fit. -/
def fillFraction (significand : Nat) : List Nat → Nat × Nat
  | [] => (significand, 0)
  | d :: ds =>
      if significand * 10 + d < significandLimit then
        let filled := fillFraction (significand * 10 + d) ds
        (filled.1, filled.2 + 1)
      else (significand, 0)

/-- The greatest power of ten below the overflow threshold. -/
def greatestPower : Nat := 308

/-- The double nearest to a power of ten. -/
def powerOfTen (k : Nat) : Double := Decimal.toDouble false ⟨1, k⟩

/-- The number times a power of ten, in steps that each round to a double; refused if it is infinite. -/
def scale? (x : Double) (exponent : Int) : Option Double :=
  if exponent.natAbs ≤ greatestPower then
    if 0 ≤ exponent then
      let y := x.mul (powerOfTen exponent.natAbs)
      if y.isInfinite then none else some y
    else some (x.div (powerOfTen exponent.natAbs))
  else if x.isZero then some x
  else if 0 ≤ exponent then none
  else scale? (x.div (powerOfTen greatestPower)) (exponent + greatestPower)
termination_by exponent.natAbs
decreasing_by simp only [greatestPower] at *; omega

/-- Exponents from here on are not read: they stand for zero or are refused. -/
def exponentLimit : Nat := Nat.pow 2 31

/-- The absolute value of a numeral that is no integer. -/
def abs? (numeral : Numeral) : Option Double :=
  let filled := fillWhole 0 numeral.whole
  let filledFraction := fillFraction filled.1 numeral.fraction
  let significand := filledFraction.1
  let exponent := ofDigits numeral.exponent
  if exponent < exponentLimit then
    scale? (Double.ofInt significand)
      (filled.2 - filledFraction.2 + if numeral.exponentNegative then -(exponent : Int) else exponent)
  else if significand ≠ 0 ∧ numeral.exponentNegative = false then none
  else some (Double.zero false)

/-- The value of a numeral. -/
def value? (numeral : Numeral) : Option Number :=
  let filled := fillWhole 0 numeral.whole
  if numeral.fraction = [] ∧ numeral.exponent = [] ∧ filled.2 = 0 then
    if numeral.negative then
      if 0 < filled.1 ∧ filled.1 ≤ Nat.pow 2 63 then some (.integer (-(filled.1 : Int)))
      else some (.double (Double.ofInt filled.1).negate)
    else some (.integer filled.1)
  else
    numeral.abs?.map fun x => .double (if numeral.negative then x.negate else x)

end Numeral

/-- The double that a number stands for; an integer is rounded to the nearest. -/
def Number.toDouble : Number → Double
  | integer n => Double.ofInt n
  | double x => x

end RecordCheck.Json
