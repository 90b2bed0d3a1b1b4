import Mathlib.Algebra.Order.Field.Power
import Mathlib.Data.List.Basic
import Mathlib.Data.List.TakeWhile
import Mathlib.Data.Rat.Cast.Order
import Mathlib.Tactic.Ring
import RecordCheck.Double.Decimal
import RecordCheck.Proofs.Double.Rounding

/-!
# Decimals by their value

A decimal matters to a double by its `Decimal.value` alone, and the double grows with it
(`Decimal.magnitude_toDouble_le`). How a decimal is written shows in two numbers: its point, which is the place of the
value between two powers of ten (`Decimal.lt_point_iff`), and its significant digits, which give the value back
together with the point (`Decimal.value_eq_significant`).
-/

namespace RecordCheck

namespace Decimal

/-- The exact value. -/
def value (d : Decimal) : ℚ := d.coefficient * (10 : ℚ) ^ d.exponent

theorem den_pos (d : Decimal) : 0 < d.den := Nat.pow_pos (by decide)

theorem num_div_den (d : Decimal) : (d.num : ℚ) / d.den = d.value := by
  have split : ((d.exponent.toNat : ℕ) : ℤ) - ((-d.exponent).toNat : ℕ) = d.exponent := by omega
  have power : (10 : ℚ) ^ d.exponent = 10 ^ d.exponent.toNat / 10 ^ (-d.exponent).toNat := by
    rw [← zpow_natCast, ← zpow_natCast, ← zpow_sub₀ (by norm_num), split]
  rw [value, power, num, den]
  push_cast [Nat.pow_eq]
  ring

theorem value_le_iff {d d' : Decimal} : d.value ≤ d'.value ↔ d.num * d'.den ≤ d'.num * d.den := by
  have positive : (0 : ℚ) < d.den := by exact_mod_cast d.den_pos
  have positive' : (0 : ℚ) < d'.den := by exact_mod_cast d'.den_pos
  rw [← num_div_den, ← num_div_den, div_le_div_iff₀ positive positive']
  exact_mod_cast Iff.rfl

theorem negative_toDouble (negative : Bool) (d : Decimal) : (d.toDouble negative).negative = negative := rfl

theorem magnitude_toDouble (negative negative' : Bool) (d : Decimal) :
    (d.toDouble negative).magnitude = (d.toDouble negative').magnitude := rfl

/-- The double nearest to a greater decimal is no smaller. -/
theorem magnitude_toDouble_le {d d' : Decimal} (negative negative' : Bool) (le : d.value ≤ d'.value) :
    (d.toDouble negative).magnitude ≤ (d'.toDouble negative').magnitude :=
  Double.nearestMagnitude_le d.den_pos d'.den_pos (value_le_iff.mp le)

/-- The nearest double is a matter of the value. -/
theorem toDouble_congr {d d' : Decimal} (negative : Bool) (same : d.value = d'.value) :
    d.toDouble negative = d'.toDouble negative := by
  have magnitude : Double.nearestMagnitude d.num d.den = Double.nearestMagnitude d'.num d'.den :=
    Nat.le_antisymm (magnitude_toDouble_le negative negative same.le)
      (magnitude_toDouble_le negative negative same.ge)
  simp only [toDouble, Double.nearest, magnitude]

theorem lt_pow_length_digits (d : Decimal) : d.coefficient < 10 ^ d.digits.length :=
  (Nat.length_toDigits_le_iff (by decide) Nat.length_toDigits_pos).mp (Nat.le_refl _)

theorem pow_length_digits_le {d : Decimal} (positive : 0 < d.coefficient) :
    10 ^ (d.digits.length - 1) ≤ d.coefficient := by
  by_cases single : d.digits.length ≤ 1
  · rw [Nat.sub_eq_zero_of_le single]
    exact positive
  · by_contra small
    have shorter := (Nat.length_toDigits_le_iff (b := 10) (n := d.coefficient) (by decide) (by omega)).mpr
      (Nat.lt_of_not_le small)
    have : d.digits.length = (Nat.toDigits 10 d.coefficient).length := rfl
    omega

/-- The point is the place of the value between two powers of ten. -/
theorem lt_point_iff {d : Decimal} (positive : 0 < d.coefficient) (place : ℤ) :
    place < d.point ↔ (10 : ℚ) ^ place ≤ d.value := by
  have nonempty : 0 < d.digits.length := Nat.length_toDigits_pos
  constructor
  · intro before
    have digits : (10 : ℚ) ^ ((d.digits.length - 1 : ℕ) : ℤ) ≤ d.coefficient := by
      rw [zpow_natCast]
      exact_mod_cast pow_length_digits_le positive
    calc (10 : ℚ) ^ place
      _ ≤ 10 ^ (((d.digits.length - 1 : ℕ) : ℤ) + d.exponent) := by
        apply zpow_le_zpow_right₀ (by norm_num)
        rw [point] at before
        omega
      _ = 10 ^ ((d.digits.length - 1 : ℕ) : ℤ) * 10 ^ d.exponent := zpow_add₀ (by norm_num) _ _
      _ ≤ d.value := mul_le_mul_of_nonneg_right digits (by positivity)
  · intro reached
    by_contra beyond
    have digits : (d.coefficient : ℚ) < 10 ^ ((d.digits.length : ℕ) : ℤ) := by
      rw [zpow_natCast]
      exact_mod_cast d.lt_pow_length_digits
    have below : d.value < 10 ^ place := by
      calc d.value
        _ < 10 ^ ((d.digits.length : ℕ) : ℤ) * 10 ^ d.exponent := mul_lt_mul_of_pos_right digits (by positivity)
        _ = 10 ^ d.point := (zpow_add₀ (by norm_num) _ _).symm
        _ ≤ 10 ^ place := zpow_le_zpow_right₀ (by norm_num) (by omega)
    exact absurd reached (not_le.mpr below)

/-- The digits are the significant ones and zeros after them. -/
theorem digits_eq_significant (d : Decimal) : ∃ zeros, d.digits = d.significant ++ List.replicate zeros '0' := by
  refine ⟨(d.digits.reverse.takeWhile (· = '0')).length, ?_⟩
  have split := List.takeWhile_append_dropWhile (p := (· = '0')) (l := d.digits.reverse)
  have zeros : d.digits.reverse.takeWhile (· = '0') =
      List.replicate (d.digits.reverse.takeWhile (· = '0')).length '0' := by
    rw [List.eq_replicate_iff]
    refine ⟨rfl, ?_⟩
    intro c member
    simpa using List.mem_takeWhile_imp member
  calc d.digits
    _ = d.digits.reverse.reverse := (List.reverse_reverse _).symm
    _ = d.significant ++ (d.digits.reverse.takeWhile (· = '0')).reverse := by
      rw [significant, ← List.reverse_append, split]
    _ = _ := by
      rw [zeros, List.reverse_replicate, List.length_replicate]

theorem coefficient_eq_significant (d : Decimal) : ∃ zeros, d.digits.length = d.significant.length + zeros ∧
    d.coefficient = 10 ^ zeros * Nat.ofDigitChars 10 d.significant 0 := by
  obtain ⟨zeros, split⟩ := d.digits_eq_significant
  refine ⟨zeros, ?_, ?_⟩
  · rw [split, List.length_append, List.length_replicate]
  · rw [← Nat.ofDigitChars_replicate_zero, ← Nat.ofDigitChars_append, ← split]
    exact Nat.ofDigitChars_ten_toDigits.symm

/-- The significant digits and the point give the value. -/
theorem value_eq_significant (d : Decimal) :
    d.value = Nat.ofDigitChars 10 d.significant 0 * (10 : ℚ) ^ (d.point - d.significant.length) := by
  obtain ⟨zeros, length, coefficient⟩ := d.coefficient_eq_significant
  have places : d.point - d.significant.length = zeros + d.exponent := by
    rw [point, length]
    push_cast
    ring
  rw [places, value, coefficient, zpow_add₀ (by norm_num), zpow_natCast]
  push_cast
  ring

theorem isDigit_of_mem_significant {d : Decimal} {c : Char} (member : c ∈ d.significant) : c.isDigit = true := by
  obtain ⟨zeros, split⟩ := d.digits_eq_significant
  have inside : c ∈ d.digits := by
    rw [split]
    exact List.mem_append_left _ member
  exact Nat.isDigit_of_mem_toDigits (by decide) (by decide) inside

theorem significant_ne_nil {d : Decimal} (positive : 0 < d.coefficient) : d.significant ≠ [] := by
  intro empty
  obtain ⟨zeros, -, coefficient⟩ := d.coefficient_eq_significant
  rw [empty, Nat.ofDigitChars_nil, Nat.mul_zero] at coefficient
  omega

/-- A positive number is written without a zero at its start. -/
theorem head?_toDigits {n : Nat} (positive : 0 < n) : (Nat.toDigits 10 n).head? ≠ some '0' := by
  induction n using Nat.strong_induction_on with
  | h n ih =>
      by_cases single : n < 10
      · have digit : ∀ n < 10, 0 < n → [Nat.digitChar n].head? ≠ some '0' := by decide
        rw [Nat.toDigits_of_lt_base single]
        exact digit n single positive
      · rw [Nat.toDigits_of_base_le (by decide) (by omega), List.head?_append_of_ne_nil _ Nat.toDigits_ne_nil]
        exact ih (n / 10) (by omega) (by omega)

theorem head?_significant {d : Decimal} (positive : 0 < d.coefficient) : d.significant.head? ≠ some '0' := by
  obtain ⟨zeros, split⟩ := d.digits_eq_significant
  have first := head?_toDigits positive
  rwa [show Nat.toDigits 10 d.coefficient = d.digits from rfl, split,
    List.head?_append_of_ne_nil _ (significant_ne_nil positive)] at first

/-- A zero at the end of the coefficient does not count. -/
theorem significant_ten_mul {n : Nat} (positive : 0 < n) (exponent exponent' : ℤ) :
    (⟨10 * n, exponent⟩ : Decimal).significant = (⟨n, exponent'⟩ : Decimal).significant := by
  have written : Nat.toDigits 10 (10 * n) = Nat.toDigits 10 n ++ ['0'] :=
    (Nat.toDigits_append_toDigits (b := 10) (d := 0) (by decide) positive (by decide)).symm
  simp [significant, digits, written]

theorem significant_ten_pow (k : Nat) (exponent : ℤ) : (⟨10 ^ k, exponent⟩ : Decimal).significant = ['1'] := by
  induction k with
  | zero =>
      have one : Nat.toDigits 10 1 = ['1'] := Nat.toDigits_of_lt_base (by decide)
      simp [significant, digits, one]
  | succ k ih => rw [pow_succ', significant_ten_mul (Nat.pow_pos (by decide)) exponent exponent, ih]

/-- Up to a power of ten a coefficient has no more significant digits than the power has zeros. -/
theorem length_significant_le {d : Decimal} {precision : Nat} (positive : 0 < precision)
    (le : d.coefficient ≤ 10 ^ precision) : d.significant.length ≤ precision := by
  by_cases power : d.coefficient = 10 ^ precision
  · have single : d.significant = ['1'] := by
      rw [show d = ⟨10 ^ precision, d.exponent⟩ by rw [← power], significant_ten_pow]
    rw [single]
    exact positive
  · obtain ⟨zeros, length, -⟩ := d.coefficient_eq_significant
    have digits := (Nat.length_toDigits_le_iff (b := 10) (by decide) positive).mpr (Nat.lt_of_le_of_ne le power)
    have : d.digits.length = (Nat.toDigits 10 d.coefficient).length := rfl
    omega

end Decimal

end RecordCheck
