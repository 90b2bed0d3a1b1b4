import Mathlib.Algebra.Order.Field.Basic
import RecordCheck.Proofs.Double.Shortest

/-!
# Integers as doubles

`Double.toRat` is the exact value of a finite double, whose size is its significand times a power of two
(`units_eq_significand`). `NearestTo x q` says that no finite double is nearer to `q` than `x` is, and that another one
is as near only if the significand of `x` is even. A quotient that does not overflow rounds to the double nearest to it
(`nearestTo_nearest`), and of one sign there is no other one (`NearestTo.unique`). For integers rounding is monotone
(`toRat_ofInt_le`) and, up to `2 ^ 53`, exact (`toRat_ofInt_of_le`). Numbers are equal if their exact values are
(`numEq_iff_toRat_eq`).
-/

namespace RecordCheck.Double

/-- A rational with a sign put before it. -/
def signed (negative : Bool) (q : ℚ) : ℚ := if negative then -q else q

/-- The exact value of a finite double. -/
def toRat (x : Double) : ℚ := signed x.negative x.size

/-- The place in the lowest binade; in the others it follows a leading one. -/
def significand (x : Double) : Nat :=
  if x.magnitude / binadeSize = 0 then x.magnitude % binadeSize else binadeSize + x.magnitude % binadeSize

theorem units_eq_significand (x : Double) : x.units = x.significand * 2 ^ (x.magnitude / binadeSize - 1) := by
  rw [units_eq, unitsAt, significand]
  split
  · rename_i lowest
    rw [lowest]
    exact (Nat.mul_one _).symm
  · rfl

/-- A binade holds an even number of doubles, so the significand is even where the magnitude is. -/
theorem significand_mod_two (x : Double) : x.significand % 2 = x.magnitude % 2 := by
  rw [significand]
  by_cases lowest : x.magnitude / binadeSize = 0
  · rw [if_pos lowest]
    rw [binadeSize_eq] at lowest ⊢
    omega
  · rw [if_neg lowest, binadeSize_eq]
    omega

/-- No finite double is nearer to the rational, and a different one is as near only if the significand is even. -/
structure NearestTo (x : Double) (q : ℚ) : Prop where
  finite : x.isFinite = true
  near : ∀ y : Double, y.isFinite = true → |x.toRat - q| ≤ |y.toRat - q|
  even : ∀ y : Double, y.isFinite = true → y.toRat ≠ x.toRat → |y.toRat - q| = |x.toRat - q| →
    x.significand % 2 = 0

section Signs

variable {p q : ℚ}

theorem abs_signed (negative : Bool) (q : ℚ) : |signed negative q| = |q| := by
  cases negative with
  | false => rfl
  | true => exact abs_neg q

theorem abs_signed_sub_signed (negative : Bool) (p q : ℚ) : |signed negative p - signed negative q| = |p - q| := by
  cases negative with
  | false => rfl
  | true => rw [signed, signed, if_pos rfl, if_pos rfl, neg_sub_neg, abs_sub_comm]

/-- Numbers are as far apart as their sizes, or farther. -/
theorem abs_sub_le_signed (negative negative' : Bool) (hp : 0 ≤ p) (hq : 0 ≤ q) :
    |p - q| ≤ |signed negative p - signed negative' q| := by
  have apart := abs_abs_sub_abs_le_abs_sub (signed negative p) (signed negative' q)
  rwa [abs_signed, abs_signed, abs_of_nonneg hp, abs_of_nonneg hq] at apart

theorem signed_zero (negative : Bool) : signed negative 0 = 0 := by
  cases negative with
  | false => rfl
  | true => exact neg_zero

/-- Numbers of different signs are as far apart as their sizes together. -/
theorem abs_sub_signed_of_ne {negative negative' : Bool} (other : negative ≠ negative') (hp : 0 ≤ p) (hq : 0 ≤ q) :
    |signed negative p - signed negative' q| = p + q := by
  obtain rfl := Bool.eq_not.mpr other
  cases negative' with
  | false =>
      have apart : signed (!false) p - signed false q = -(p + q) := (neg_add' p q).symm
      rw [apart, abs_neg, abs_of_nonneg (add_nonneg hp hq)]
  | true =>
      have apart : signed (!true) p - signed true q = p + q := sub_neg_eq_add p q
      rw [apart, abs_of_nonneg (add_nonneg hp hq)]

end Signs

theorem size_nonneg (x : Double) : 0 ≤ x.size :=
  div_nonneg (Nat.cast_nonneg _) unitsPerOne_cast_pos.le

theorem abs_toRat (x : Double) : |x.toRat| = x.size := by
  rw [toRat, abs_signed, abs_of_nonneg x.size_nonneg]

theorem size_eq_of_toRat_eq {x y : Double} (same : x.toRat = y.toRat) : x.size = y.size := by
  rw [← abs_toRat, ← abs_toRat, same]

theorem size_eq (x : Double) : x.size = (unitsAt x.magnitude : ℚ) / unitsPerOne := rfl

theorem size_le_iff {x y : Double} : x.size ≤ y.size ↔ x.magnitude ≤ y.magnitude := by
  rw [size_eq, size_eq, div_le_div_iff_of_pos_right unitsPerOne_cast_pos, Nat.cast_le, unitsAt_strictMono.le_iff_le]

theorem size_inj {x y : Double} : x.size = y.size ↔ x.magnitude = y.magnitude := by
  rw [le_antisymm_iff, size_le_iff, size_le_iff, le_antisymm_iff]

theorem size_eq_zero_iff {x : Double} : x.size = 0 ↔ x.magnitude = 0 := by
  have zero : (Double.zero false).size = 0 := zero_div _
  rw [← zero, size_inj]
  rfl

namespace Rounds

variable {num den m : Nat}

/-- The quotient is not above the middle to the next double, and in the middle only of an even one. -/
theorem rat_above (rounds : Rounds num den m) (positive : 0 < den) :
    2 * ((num : ℚ) / den) ≤ unitsAt m + unitsAt (m + 1) ∧
      (2 * ((num : ℚ) / den) = unitsAt m + unitsAt (m + 1) → m % 2 = 0) := by
  have positive' : (0 : ℚ) < den := by exact_mod_cast positive
  rw [← mul_div_assoc, div_le_iff₀ positive', div_eq_iff positive'.ne']
  constructor
  · exact_mod_cast rounds.above
  · intro middle
    exact rounds.evenAbove (by exact_mod_cast middle)

/-- The quotient is not below the middle to the previous double, and in the middle only of an even one. -/
theorem rat_below (rounds : Rounds num den m) (positive : 0 < den) {k : Nat} (next : m = k + 1) :
    unitsAt k + unitsAt m ≤ 2 * ((num : ℚ) / den) ∧
      (unitsAt k + unitsAt m = 2 * ((num : ℚ) / den) → m % 2 = 0) := by
  have positive' : (0 : ℚ) < den := by exact_mod_cast positive
  rw [← mul_div_assoc, le_div_iff₀ positive', eq_div_iff positive'.ne']
  constructor
  · exact_mod_cast rounds.below k next
  · intro middle
    exact rounds.evenBelow k next (by exact_mod_cast middle)

/-- No double of the sign is nearer to the quotient, and only a neighbour is as near, if the magnitude is even. -/
theorem dist_le (rounds : Rounds num den m) (positive : 0 < den) (k : Nat) :
    |(unitsAt m : ℚ) - num / den| ≤ |(unitsAt k : ℚ) - num / den| ∧
      (k ≠ m → |(unitsAt k : ℚ) - num / den| = |(unitsAt m : ℚ) - num / den| →
        m % 2 = 0 ∧ (m = k + 1 ∨ k = m + 1)) := by
  rcases lt_trichotomy k m with less | rfl | greater
  · obtain ⟨j, rfl⟩ : ∃ j, m = j + 1 := ⟨m - 1, by omega⟩
    obtain ⟨middle, even⟩ := rounds.rat_below positive rfl
    have below : (unitsAt k : ℚ) ≤ unitsAt j := by exact_mod_cast unitsAt_strictMono.monotone (by omega)
    have step : (unitsAt j : ℚ) < unitsAt (j + 1) := by exact_mod_cast unitsAt_strictMono (Nat.lt_succ_self j)
    -- the other double lies below the quotient, with the previous one between
    have distance : |(unitsAt k : ℚ) - num / den| = num / den - unitsAt k := by
      rw [abs_sub_comm]
      exact abs_of_nonneg (by linarith)
    rw [distance]
    refine ⟨abs_le.mpr ⟨by linarith, by linarith⟩, ?_⟩
    intro _ tie
    rcases abs_cases ((unitsAt (j + 1) : ℚ) - num / den) with ⟨up, -⟩ | ⟨down, -⟩
    · rw [up] at tie
      have same : (unitsAt k : ℚ) = unitsAt j := by linarith
      obtain rfl := unitsAt_strictMono.injective (Nat.cast_injective same)
      exact ⟨even (by linarith), .inl rfl⟩
    · rw [down] at tie
      linarith
  · exact ⟨le_refl _, fun other => absurd rfl other⟩
  · obtain ⟨middle, even⟩ := rounds.rat_above positive
    have above : (unitsAt (m + 1) : ℚ) ≤ unitsAt k := by exact_mod_cast unitsAt_strictMono.monotone greater
    have step : (unitsAt m : ℚ) < unitsAt (m + 1) := by exact_mod_cast unitsAt_strictMono (Nat.lt_succ_self m)
    have distance : |(unitsAt k : ℚ) - num / den| = unitsAt k - num / den := abs_of_nonneg (by linarith)
    rw [distance]
    refine ⟨abs_le.mpr ⟨by linarith, by linarith⟩, ?_⟩
    intro _ tie
    rcases abs_cases ((unitsAt m : ℚ) - num / den) with ⟨up, -⟩ | ⟨down, -⟩
    · rw [up] at tie
      linarith
    · rw [down] at tie
      have same : (unitsAt k : ℚ) = unitsAt (m + 1) := by linarith
      exact ⟨even (by linarith), .inr (unitsAt_strictMono.injective (Nat.cast_injective same))⟩

end Rounds

/-- A distance from a quotient, counted in units. -/
theorem abs_size_sub (x : Double) (num den : Nat) :
    |x.size - num / den| = |(unitsAt x.magnitude : ℚ) - (num * unitsPerOne : Nat) / den| / unitsPerOne := by
  have positive := unitsPerOne_cast_pos
  have quotient : (num : ℚ) / den = ((num * unitsPerOne : Nat) : ℚ) / den / unitsPerOne := by
    rw [Nat.cast_mul, div_right_comm, mul_div_cancel_right₀ _ positive.ne']
  rw [size_eq, quotient, ← sub_div, abs_div, abs_of_pos positive]

/-- A double with the size of another one, but a different value, has the other sign and is not zero. -/
theorem opposite_of_size_eq {x y : Double} (size : y.size = x.size) (other : y.toRat ≠ x.toRat) :
    y.negative ≠ x.negative ∧ 0 < x.size := by
  rw [toRat, toRat, size] at other
  constructor
  · intro same
    rw [same] at other
    exact other rfl
  · refine lt_of_le_of_ne x.size_nonneg ?_
    intro zero
    rw [← zero, signed_zero, signed_zero] at other
    exact other rfl

theorem negative_nearest (negative : Bool) (num den : Nat) : (nearest negative num den).negative = negative := rfl

theorem magnitude_nearest (negative : Bool) (num den : Nat) :
    (nearest negative num den).magnitude = nearestMagnitude num den := rfl

/-- A quotient rounds to the double nearest to it, unless that is beyond the finite ones. -/
theorem nearestTo_nearest (negative : Bool) {num den : Nat} (positive : 0 < den)
    (finite : nearestMagnitude num den < infinityMagnitude) :
    (nearest negative num den).NearestTo (signed negative (num / den)) := by
  have rounds := rounds_nearestMagnitude positive finite
  have scale := unitsPerOne_cast_pos
  have quotient : (0 : ℚ) ≤ num / den := div_nonneg (Nat.cast_nonneg _) (Nat.cast_nonneg _)
  generalize rounded : nearest negative num den = x
  have magnitude : nearestMagnitude num den = x.magnitude := congrArg magnitude rounded
  have sign : negative = x.negative := congrArg Double.negative rounded
  rw [magnitude] at rounds finite
  rw [sign]
  have here : |x.toRat - signed x.negative (num / den)| = |x.size - num / den| := abs_signed_sub_signed x.negative _ _
  have nearer (y : Double) : |x.size - num / den| ≤ |y.size - num / den| := by
    rw [abs_size_sub, abs_size_sub, div_le_div_iff_of_pos_right scale]
    exact (rounds.dist_le positive y.magnitude).1
  have apart (y : Double) : |y.size - num / den| ≤ |y.toRat - signed x.negative (num / den)| :=
    abs_sub_le_signed y.negative x.negative y.size_nonneg quotient
  refine ⟨decide_eq_true finite, ?_, ?_⟩
  · intro y _
    rw [here]
    exact (nearer y).trans (apart y)
  · intro y _ other tie
    rw [here] at tie
    rw [significand_mod_two]
    by_cases same : y.magnitude = x.magnitude
    · -- the double of the other sign is not as near, since zero is nearer than it
      have size : y.size = x.size := size_inj.mpr same
      obtain ⟨otherSign, nonzero⟩ := opposite_of_size_eq size other
      have far : |y.toRat - signed x.negative (num / den)| = y.size + num / den :=
        abs_sub_signed_of_ne otherSign y.size_nonneg quotient
      have zero := nearer (Double.zero false)
      have none : (Double.zero false).size = 0 := size_eq_zero_iff.mpr rfl
      rw [none, zero_sub, abs_neg, abs_of_nonneg quotient] at zero
      rw [far, size] at tie
      linarith
    · have tie' : |y.size - num / den| = |x.size - num / den| := le_antisymm ((apart y).trans tie.le) (nearer y)
      rw [abs_size_sub, abs_size_sub, div_left_inj' scale.ne'] at tie'
      exact ((rounds.dist_le positive y.magnitude).2 same tie').1

/-- Of one sign there is only one double nearest to a quotient. -/
theorem NearestTo.unique {x y : Double} {num den : Nat} (nearestTo : x.NearestTo (signed x.negative (num / den)))
    (nearestTo' : y.NearestTo (signed x.negative (num / den))) (sign : x.negative = y.negative) (positive : 0 < den)
    (rounds : Rounds (num * unitsPerOne) den y.magnitude) : x = y := by
  refine eq_of_magnitude sign ?_
  by_contra other
  have values : y.toRat ≠ x.toRat := by
    intro same
    exact other (size_inj.mp (size_eq_of_toRat_eq same)).symm
  have tie : |y.toRat - signed x.negative (num / den)| = |x.toRat - signed x.negative (num / den)| :=
    le_antisymm (nearestTo'.near x nearestTo.finite) (nearestTo.near y nearestTo'.finite)
  -- both of them are even, but only a neighbour is as near
  have even := nearestTo.even y nearestTo'.finite values tie
  rw [significand_mod_two] at even
  rw [toRat, toRat, ← sign, abs_signed_sub_signed, abs_signed_sub_signed, abs_size_sub, abs_size_sub,
    div_left_inj' unitsPerOne_cast_pos.ne'] at tie
  obtain ⟨even', neighbour⟩ := (rounds.dist_le positive x.magnitude).2 other tie.symm
  omega

section Integers

theorem signed_natAbs (n : ℤ) : signed (decide (n < 0)) ((n.natAbs : ℚ) / (1 : Nat)) = n := by
  rw [Nat.cast_one, div_one, Nat.cast_natAbs, signed]
  by_cases below : n < 0
  · rw [if_pos (decide_eq_true below), abs_of_neg below, Int.cast_neg, neg_neg]
  · rw [if_neg (by simpa using below), abs_of_nonneg (Int.not_lt.mp below)]

/-- Integers of 64 bits are far below the overflow threshold. -/
theorem nearestMagnitude_lt_infinity {a : Nat} (small : a ≤ 2 ^ 64) : nearestMagnitude a 1 < infinityMagnitude := by
  have greatest : nearestMagnitude (2 ^ 64) 1 < infinityMagnitude := by decide +kernel
  exact lt_of_le_of_lt (nearestMagnitude_le Nat.one_pos Nat.one_pos (by omega)) greatest

theorem nearestTo_ofInt {n : ℤ} (small : n.natAbs ≤ 2 ^ 64) : (ofInt n).NearestTo n := by
  have nearest := nearestTo_nearest (decide (n < 0)) Nat.one_pos (nearestMagnitude_lt_infinity small)
  rwa [signed_natAbs] at nearest

/-- The double nearest to an integer is known by its sign, which tells the two zeros apart. -/
theorem NearestTo.eq_ofInt {x : Double} {n : ℤ} (nearestTo : x.NearestTo n) (sign : x.negative = true ↔ n < 0)
    (small : n.natAbs ≤ 2 ^ 64) : x = ofInt n := by
  have negative : x.negative = decide (n < 0) := by
    rw [Bool.eq_iff_iff, sign, decide_eq_true_iff]
  have finite := nearestMagnitude_lt_infinity small
  have nearestTo' := nearestTo_nearest x.negative Nat.one_pos finite
  have rounds := rounds_nearestMagnitude Nat.one_pos finite
  rw [← magnitude_nearest x.negative] at rounds
  rw [← signed_natAbs n, ← negative] at nearestTo
  rw [ofInt, ← negative]
  exact nearestTo.unique nearestTo' (negative_nearest ..).symm Nat.one_pos rounds

theorem size_ofInt_le {a b : ℤ} (le : a.natAbs ≤ b.natAbs) : (ofInt a).size ≤ (ofInt b).size := by
  rw [size_le_iff]
  exact nearestMagnitude_le Nat.one_pos Nat.one_pos (by omega)

theorem toRat_ofInt_of_nonneg {n : ℤ} (nonneg : 0 ≤ n) : (ofInt n).toRat = (ofInt n).size := by
  have sign : (ofInt n).negative = false := decide_eq_false (Int.not_lt.mpr nonneg)
  rw [toRat, sign]
  rfl

theorem toRat_ofInt_of_neg {n : ℤ} (below : n < 0) : (ofInt n).toRat = -(ofInt n).size := by
  have sign : (ofInt n).negative = true := decide_eq_true below
  rw [toRat, sign]
  rfl

/-- Rounding of integers is monotone. -/
theorem toRat_ofInt_le {a b : ℤ} (le : a ≤ b) : (ofInt a).toRat ≤ (ofInt b).toRat := by
  by_cases below : a < 0
  · rw [toRat_ofInt_of_neg below]
    by_cases below' : b < 0
    · rw [toRat_ofInt_of_neg below']
      exact neg_le_neg (size_ofInt_le (by omega))
    · rw [toRat_ofInt_of_nonneg (Int.not_lt.mp below')]
      exact (neg_nonpos.mpr (size_nonneg _)).trans (size_nonneg _)
  · rw [toRat_ofInt_of_nonneg (by omega), toRat_ofInt_of_nonneg (by omega)]
    exact size_ofInt_le (by omega)

/-- A number that is moved up to the places of a binade. -/
theorem unitsAt_shifted {a shift top : Nat} (le : shift ≤ top) (inside : a * 2 ^ shift ≤ 2 * binadeSize)
    (lead : binadeSize ≤ a * 2 ^ shift) :
    unitsAt ((top - shift) * binadeSize + a * 2 ^ shift) = a * Nat.pow 2 top := by
  rw [unitsAt_binade inside (.inr lead), mul_assoc, pow_mul_pow_sub 2 le]
  rfl

/-- An integer of at most 53 bits, or the power of two that follows these, is the size of a finite double. -/
theorem exists_unitsAt_eq {a : Nat} (small : a ≤ 2 ^ 53) :
    ∃ m, m < infinityMagnitude ∧ unitsAt m = a * unitsPerOne := by
  by_cases zero : a = 0
  · subst zero
    refine ⟨0, by decide, ?_⟩
    rw [Nat.zero_mul]
    rfl
  · have lower := Nat.log2_self_le zero
    have upper := @Nat.lt_log2_self a
    have start : binadeSize ≤ a * 2 ^ (52 - a.log2) := by
      calc binadeSize
        _ = 2 ^ 52 := rfl
        _ ≤ 2 ^ (a.log2 + (52 - a.log2)) := Nat.pow_le_pow_right (by decide) (by omega)
        _ = 2 ^ a.log2 * 2 ^ (52 - a.log2) := pow_add ..
        _ ≤ a * 2 ^ (52 - a.log2) := Nat.mul_le_mul_right _ lower
    have inside : a * 2 ^ (52 - a.log2) ≤ 2 * binadeSize := by
      by_cases high : 52 < a.log2
      · rw [Nat.sub_eq_zero_of_le high.le, pow_zero, Nat.mul_one]
        exact small
      · calc a * 2 ^ (52 - a.log2)
          _ ≤ 2 ^ (a.log2 + 1) * 2 ^ (52 - a.log2) := Nat.mul_le_mul_right _ upper.le
          _ = 2 ^ (a.log2 + 1 + (52 - a.log2)) := (pow_add ..).symm
          _ = 2 ^ 53 := by rw [show a.log2 + 1 + (52 - a.log2) = 53 by omega]
    refine ⟨(1074 - (52 - a.log2)) * binadeSize + a * 2 ^ (52 - a.log2), ?_, ?_⟩
    · have bound : (1074 - (52 - a.log2)) * binadeSize ≤ 1074 * binadeSize := Nat.mul_le_mul_right _ (by omega)
      rw [infinityMagnitude]
      rw [binadeSize_eq] at inside bound ⊢
      omega
    · exact unitsAt_shifted (by omega) inside start

/-- The integers up to `2 ^ 53` are doubles. -/
theorem toRat_ofInt_of_le {n : ℤ} (small : n.natAbs ≤ 2 ^ 53) : (ofInt n).toRat = n := by
  obtain ⟨m, finite, units⟩ := exists_unitsAt_eq small
  have rounds := rounds_unitsAt m Nat.one_pos
  rw [Nat.mul_one, units] at rounds
  have magnitude : (ofInt n).magnitude = m := nearestMagnitude_eq_of_rounds Nat.one_pos rounds finite
  have size : (ofInt n).size = (n.natAbs : ℚ) / (1 : Nat) := by
    rw [size_eq, magnitude, units, Nat.cast_mul, mul_div_cancel_right₀ _ unitsPerOne_cast_pos.ne', Nat.cast_one, div_one]
  rw [toRat, size]
  exact signed_natAbs n

end Integers

/-- Finite doubles are numerically equal if they have the same exact value. -/
theorem numEq_iff_toRat_eq {x y : Double} (finite : x.isFinite = true) (finite' : y.isFinite = true) :
    x.numEq y = true ↔ x.toRat = y.toRat := by
  have toRat_zero {z : Double} (zero : z.magnitude = 0) : z.toRat = 0 := by
    rw [toRat, size_eq_zero_iff.mpr zero, signed_zero]
  constructor
  · intro equal
    rcases eq_or_isZero_of_numEq equal with rfl | ⟨zero, zero'⟩
    · rfl
    · rw [toRat_zero (of_decide_eq_true zero), toRat_zero (of_decide_eq_true zero')]
  · intro same
    have magnitudes := size_inj.mp (size_eq_of_toRat_eq same)
    refine numEq_iff.mpr ⟨isNaN_eq_false_of_isFinite finite, isNaN_eq_false_of_isFinite finite', ?_⟩
    rw [key, key, ← magnitudes]
    by_cases sign : x.negative = y.negative
    · rw [sign]
    · have apart : |x.toRat - y.toRat| = x.size + y.size := abs_sub_signed_of_ne sign x.size_nonneg y.size_nonneg
      rw [same, sub_self, abs_zero] at apart
      have zero : x.size = 0 := by linarith [x.size_nonneg, y.size_nonneg]
      rw [size_eq_zero_iff.mp zero]
      simp

end RecordCheck.Double
