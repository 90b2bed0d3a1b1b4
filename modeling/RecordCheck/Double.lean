/-!
# Double precision numbers

A `Double` is an IEEE 754 double precision number, given by its bit pattern: the sign bit and the remaining
63 bits read as a natural number, its `magnitude`. On numbers of one sign the order of the magnitudes is the
order of the absolute values, so comparisons are comparisons of integers (`Double.key`), and every finite
double is a whole number of the smallest positive one (`Double.units`).
-/

namespace RecordCheck

/-- A double precision number: its sign bit and its other 63 bits. -/
structure Double where
  negative : Bool
  magnitude : Nat
  magnitude_lt : magnitude < Nat.pow 2 63
deriving DecidableEq

namespace Double

/-- How many magnitudes a binade holds: the upper bits count the binades, the other 52 the places in one. -/
def binadeSize : Nat := Nat.pow 2 52

/-- How many of the smallest positive doubles make one. -/
def unitsPerOne : Nat := Nat.pow 2 1074

/-- The magnitude of both infinities; a greater magnitude is not a number. -/
def infinityMagnitude : Nat := 0x7FF * binadeSize

theorem infinityMagnitude_lt : infinityMagnitude < Nat.pow 2 63 := by decide

/-- The double with the given 64 bits. -/
def ofBits (bits : UInt64) : Double where
  negative := decide (Nat.pow 2 63 ≤ bits.toNat)
  magnitude := bits.toNat % Nat.pow 2 63
  magnitude_lt := Nat.mod_lt _ (by decide)

/-- The infinity of the given sign. -/
def infinity (negative : Bool) : Double := ⟨negative, infinityMagnitude, infinityMagnitude_lt⟩

/-- The zero of the given sign. -/
def zero (negative : Bool) : Double := ⟨negative, 0, by decide⟩

/-- The quiet value that is not a number. -/
def nan : Double := ⟨false, infinityMagnitude + Nat.pow 2 51, by decide⟩

/-- By default a double is the positive zero. -/
instance : Inhabited Double := ⟨zero false⟩

/-- Whether the double is not a number. -/
def isNaN (x : Double) : Bool := decide (infinityMagnitude < x.magnitude)

/-- Whether the double is one of the two infinities. -/
def isInfinite (x : Double) : Bool := decide (x.magnitude = infinityMagnitude)

/-- Whether the double is neither infinite nor something that is not a number. -/
def isFinite (x : Double) : Bool := decide (x.magnitude < infinityMagnitude)

theorem isNaN_eq_false_of_isFinite {x : Double} (finite : x.isFinite = true) : x.isNaN = false := by
  simp only [isFinite, isNaN, decide_eq_true_eq, decide_eq_false_iff_not] at finite ⊢
  omega

/-- Holds of both zeros. -/
def isZero (x : Double) : Bool := decide (x.magnitude = 0)

/-- The same number with the other sign. -/
def negate (x : Double) : Double := { x with negative := !x.negative }

/-- An integer that orders the numbers; the two zeros share one. -/
def key (x : Double) : Int := if x.negative then -(x.magnitude : Int) else x.magnitude

/-- Numeric equality: the zeros are equal, and what is not a number equals nothing. -/
def numEq (x y : Double) : Bool := !x.isNaN && !y.isNaN && decide (x.key = y.key)

/-- Numeric order: false when either side is not a number. -/
def lt (x y : Double) : Bool := !x.isNaN && !y.isNaN && decide (x.key < y.key)

/--
The absolute value of a finite double, counted in units of `2 ^ -1074`. In the lowest binade the place counts
the units; in the others it follows a leading one, and each binade doubles the spacing of the one below.
-/
def units (x : Double) : Nat :=
  let binade := x.magnitude / binadeSize
  let place := x.magnitude % binadeSize
  if binade = 0 then place else (binadeSize + place) * Nat.pow 2 (binade - 1)

theorem numEq_iff {x y : Double} :
    x.numEq y = true ↔ x.isNaN = false ∧ y.isNaN = false ∧ x.key = y.key := by
  simp only [numEq, Bool.and_eq_true, Bool.not_eq_true', decide_eq_true_eq, and_assoc]

theorem numEq_comm (x y : Double) : x.numEq y = y.numEq x := by
  rw [Bool.eq_iff_iff, numEq_iff, numEq_iff]
  constructor <;> (rintro ⟨hx, hy, hk⟩; exact ⟨hy, hx, hk.symm⟩)

/-- Only what is not a number differs from itself. -/
theorem numEq_self (x : Double) : x.numEq x = !x.isNaN := by
  cases h : x.isNaN <;> simp [numEq, h]

/-- Numbers that are equal are the same double, or both of them are zeros. -/
theorem eq_or_isZero_of_numEq {x y : Double} (equal : x.numEq y = true) :
    x = y ∨ x.isZero = true ∧ y.isZero = true := by
  obtain ⟨-, -, keys⟩ := numEq_iff.mp equal
  obtain ⟨negative, m, bound⟩ := x
  obtain ⟨negative', n, bound'⟩ := y
  by_cases sign : negative = negative'
  · subst sign
    left
    have same : m = n := by
      cases negative with
      | false => exact Int.ofNat_inj.mp keys
      | true => exact Int.ofNat_inj.mp (Int.neg_inj.mp keys)
    subst same
    rfl
  · -- keys of different signs meet only in zero
    right
    have zeros : m = 0 ∧ n = 0 := by
      cases negative with
      | false =>
          have minus : negative' = true := by simpa using Ne.symm sign
          simp only [key, minus, Bool.false_eq_true, if_false, if_true] at keys
          omega
      | true =>
          have plus : negative' = false := by simpa using Ne.symm sign
          simp only [key, plus, Bool.false_eq_true, if_false, if_true] at keys
          omega
    simpa [isZero] using zeros

end Double

end RecordCheck
