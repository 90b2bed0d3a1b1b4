import Mathlib.Order.Monotone.Basic
import Mathlib.Tactic.Linarith
import Mathlib.Tactic.Ring
import RecordCheck.Double.Rounding

/-!
# Rounding as a choice between neighbours

The magnitudes count the doubles of one sign in the order of their sizes (`unitsAt_strictMono`). `Rounds num den m` says
that the quotient lies no farther from the double of magnitude `m` than the middle between it and either neighbour, and
in the middle only if `m` is even. There is one such magnitude, it grows with the quotient (`Rounds.le`), and it is what
`Double.nearestMagnitude` computes up to the overflow threshold (`rounds_roundedMagnitude`). Hence rounding to the nearest
double is monotone (`nearestMagnitude_le`) and keeps doubles (`nearestMagnitude_of_units`).
-/

namespace RecordCheck.Double

theorem eq_of_magnitude {x y : Double} (negative : x.negative = y.negative) (magnitude : x.magnitude = y.magnitude) :
    x = y := by
  cases x
  cases y
  cases negative
  cases magnitude
  rfl

theorem binadeSize_eq : binadeSize = 4503599627370496 := rfl

/-- The units of a double with the given magnitude. -/
def unitsAt (magnitude : Nat) : Nat :=
  if magnitude / binadeSize = 0 then magnitude % binadeSize
  else (binadeSize + magnitude % binadeSize) * 2 ^ (magnitude / binadeSize - 1)

theorem units_eq (x : Double) : x.units = unitsAt x.magnitude := rfl

/-- The units at a place of a binade; both ends of the binade count as places, and the lowest one starts at zero. -/
theorem unitsAt_binade {binade place : Nat} (inside : place ≤ 2 * binadeSize)
    (lead : binade = 0 ∨ binadeSize ≤ place) : unitsAt (binade * binadeSize + place) = place * 2 ^ binade := by
  unfold unitsAt
  by_cases low : place < binadeSize
  · obtain rfl : binade = 0 := by omega
    have quotient : (0 * binadeSize + place) / binadeSize = 0 := by
      rw [binadeSize_eq] at low ⊢
      omega
    have remainder : (0 * binadeSize + place) % binadeSize = place := by
      rw [binadeSize_eq] at low ⊢
      omega
    rw [if_pos quotient, remainder, Nat.pow_zero, Nat.mul_one]
  · by_cases top : place = 2 * binadeSize
    · -- the upper end is the start of the binade above
      have quotient : (binade * binadeSize + place) / binadeSize = binade + 2 := by
        rw [binadeSize_eq] at top ⊢
        omega
      have remainder : (binade * binadeSize + place) % binadeSize = 0 := by
        rw [binadeSize_eq] at top ⊢
        omega
      rw [if_neg (by omega), quotient, remainder, top, show binade + 2 - 1 = binade + 1 from rfl, pow_succ]
      ring
    · have quotient : (binade * binadeSize + place) / binadeSize = binade + 1 := by
        rw [binadeSize_eq] at low top inside ⊢
        omega
      have remainder : binadeSize + (binade * binadeSize + place) % binadeSize = place := by
        rw [binadeSize_eq] at low top inside ⊢
        omega
      rw [if_neg (by omega), quotient, remainder, Nat.add_sub_cancel]

theorem exists_binade (magnitude : Nat) :
    ∃ binade place, magnitude = binade * binadeSize + place ∧ place < 2 * binadeSize ∧
      (binade = 0 ∨ binadeSize ≤ place) := by
  by_cases low : magnitude < binadeSize
  · exact ⟨0, magnitude, by omega, by omega, .inl rfl⟩
  · refine ⟨magnitude / binadeSize - 1, magnitude % binadeSize + binadeSize, ?_, ?_, .inr ?_⟩
    all_goals
      rw [binadeSize_eq] at low ⊢
      omega

/-- Doubles of one sign are in the order of their magnitudes. -/
theorem unitsAt_strictMono : StrictMono unitsAt := by
  apply strictMono_nat_of_lt_succ
  intro magnitude
  obtain ⟨binade, place, rfl, inside, lead⟩ := exists_binade magnitude
  have here : unitsAt (binade * binadeSize + place) = place * 2 ^ binade :=
    unitsAt_binade (by omega) lead
  have next : unitsAt (binade * binadeSize + (place + 1)) = (place + 1) * 2 ^ binade :=
    unitsAt_binade (by omega) (by omega)
  rw [here, Nat.add_assoc, next]
  exact Nat.mul_lt_mul_of_pos_right (Nat.lt_succ_self place) (Nat.two_pow_pos binade)

/-- The rounded quotient is at most one half away, and one half only if it is even. -/
theorem roundHalfEven_near (num : Nat) {den : Nat} (positive : 0 < den) :
    2 * num ≤ (2 * roundHalfEven num den + 1) * den ∧
      2 * roundHalfEven num den * den ≤ 2 * num + den ∧
      (2 * num = (2 * roundHalfEven num den + 1) * den → roundHalfEven num den % 2 = 0) ∧
      (2 * roundHalfEven num den * den = 2 * num + den → roundHalfEven num den % 2 = 0) := by
  have split := Nat.div_add_mod num den
  have small := Nat.mod_lt num positive
  unfold roundHalfEven
  simp only
  generalize num / den = quotient at split ⊢
  generalize num % den = remainder at split small ⊢
  have down : (2 * quotient + 1) * den = 2 * (den * quotient) + den := by ring
  have down' : 2 * quotient * den = 2 * (den * quotient) := by ring
  have up : (2 * (quotient + 1) + 1) * den = 2 * (den * quotient) + 3 * den := by ring
  have up' : 2 * (quotient + 1) * den = 2 * (den * quotient) + 2 * den := by ring
  split_ifs with below above even
  · rw [down, down']
    omega
  · rw [up, up']
    omega
  · rw [down, down']
    omega
  · rw [up, up']
    omega

/--
The double of magnitude `m` is the nearest to the quotient, which counts units: the quotient is not beyond the middle
on either side, and in the middle only if `m` is even.
-/
structure Rounds (num den m : Nat) : Prop where
  above : 2 * num ≤ (unitsAt m + unitsAt (m + 1)) * den
  below : ∀ k, m = k + 1 → (unitsAt k + unitsAt m) * den ≤ 2 * num
  evenAbove : 2 * num = (unitsAt m + unitsAt (m + 1)) * den → m % 2 = 0
  evenBelow : ∀ k, m = k + 1 → (unitsAt k + unitsAt m) * den = 2 * num → m % 2 = 0

/-- A greater quotient has no smaller nearest double. -/
theorem Rounds.le {num den num' den' m m' : Nat} (rounds : Rounds num den m) (rounds' : Rounds num' den' m')
    (positive : 0 < den) (positive' : 0 < den') (le : num * den' ≤ num' * den) : m ≤ m' := by
  by_contra greater
  obtain ⟨k, rfl⟩ : ∃ k, m = k + 1 := ⟨m - 1, by omega⟩
  have lower : unitsAt m' ≤ unitsAt k := unitsAt_strictMono.monotone (by omega)
  have upper : unitsAt (m' + 1) ≤ unitsAt (k + 1) := unitsAt_strictMono.monotone (by omega)
  have below := rounds.below k rfl
  have above := rounds'.above
  -- both quotients lie in the middle between the same two doubles
  have first : (unitsAt k + unitsAt (k + 1)) * den * den' ≤ 2 * num * den' := Nat.mul_le_mul_right den' below
  have second : 2 * num' * den ≤ (unitsAt m' + unitsAt (m' + 1)) * den' * den := Nat.mul_le_mul_right den above
  have third : (unitsAt m' + unitsAt (m' + 1)) * (den' * den) ≤ (unitsAt k + unitsAt (k + 1)) * (den' * den) :=
    Nat.mul_le_mul_right _ (by omega)
  have middle : (unitsAt k + unitsAt (k + 1)) * den = 2 * num := by
    apply Nat.eq_of_mul_eq_mul_right positive'
    linarith
  have middle' : 2 * num' = (unitsAt m' + unitsAt (m' + 1)) * den' := by
    apply Nat.eq_of_mul_eq_mul_right positive
    linarith
  have same : unitsAt m' + unitsAt (m' + 1) = unitsAt k + unitsAt (k + 1) := by
    apply Nat.eq_of_mul_eq_mul_right (Nat.mul_pos positive' positive)
    linarith
  have neighbour : m' = k := unitsAt_strictMono.injective (by omega)
  have even := rounds.evenBelow k rfl middle
  have even' := rounds'.evenAbove middle'
  omega

/-- The magnitude that a quotient of units rounds to when nothing overflows. -/
def roundedMagnitude (num den : Nat) : Nat :=
  let binade := (num / den).log2 - 52
  binade * binadeSize + roundHalfEven num (den * 2 ^ binade)

theorem nearestMagnitude_eq (num den : Nat) :
    nearestMagnitude num den = min (roundedMagnitude (num * unitsPerOne) den) infinityMagnitude := rfl

/-- The quotient lies below the upper end of its binade. -/
theorem lt_binade (num : Nat) {den : Nat} (positive : 0 < den) :
    num < 2 * binadeSize * (den * 2 ^ ((num / den).log2 - 52)) := by
  have whole : num < (num / den + 1) * den := Nat.lt_mul_of_div_lt (Nat.lt_succ_self _) positive
  have log : num / den + 1 ≤ 2 ^ ((num / den).log2 - 52 + 53) :=
    Nat.le_trans Nat.lt_log2_self (Nat.pow_le_pow_right (by omega) (by omega))
  have power : 2 ^ ((num / den).log2 - 52 + 53) = 2 * binadeSize * 2 ^ ((num / den).log2 - 52) := by
    rw [pow_add, binadeSize_eq]
    ring
  calc num
    _ < (num / den + 1) * den := whole
    _ ≤ 2 ^ ((num / den).log2 - 52 + 53) * den := Nat.mul_le_mul_right den log
    _ = 2 * binadeSize * (den * 2 ^ ((num / den).log2 - 52)) := by
      rw [power]
      ring

/-- Above the lowest binade the quotient is not below the start of its binade. -/
theorem binade_le {num den : Nat} (high : (num / den).log2 - 52 ≠ 0) :
    binadeSize * (den * 2 ^ ((num / den).log2 - 52)) ≤ num := by
  have nonzero : num / den ≠ 0 := by
    intro zero
    rw [zero] at high
    exact high rfl
  have log : 2 ^ ((num / den).log2 - 52 + 52) ≤ num / den := by
    rw [Nat.sub_add_cancel (by omega)]
    exact Nat.log2_self_le nonzero
  have power : 2 ^ ((num / den).log2 - 52 + 52) = binadeSize * 2 ^ ((num / den).log2 - 52) := by
    rw [pow_add, binadeSize_eq]
    ring
  calc binadeSize * (den * 2 ^ ((num / den).log2 - 52))
    _ = 2 ^ ((num / den).log2 - 52 + 52) * den := by
      rw [power]
      ring
    _ ≤ num / den * den := Nat.mul_le_mul_right den log
    _ ≤ num := Nat.div_mul_le_self num den

/-- Above a place of a binade the middle is half a spacing away; the upper end of the binade is not reached. -/
theorem above_place {num den binade place : Nat} (positive : 0 < den) (inside : place ≤ 2 * binadeSize)
    (lead : binade = 0 ∨ binadeSize ≤ place) (below : num < 2 * binadeSize * (den * 2 ^ binade))
    (near : 2 * num ≤ (2 * place + 1) * (den * 2 ^ binade)) :
    2 * num ≤ (unitsAt (binade * binadeSize + place) + unitsAt (binade * binadeSize + place + 1)) * den ∧
      (2 * num = (unitsAt (binade * binadeSize + place) + unitsAt (binade * binadeSize + place + 1)) * den →
        2 * num = (2 * place + 1) * (den * 2 ^ binade)) := by
  have here : unitsAt (binade * binadeSize + place) = place * 2 ^ binade := unitsAt_binade inside lead
  by_cases top : place = 2 * binadeSize
  · have up : unitsAt (binade * binadeSize + place) < unitsAt (binade * binadeSize + place + 1) :=
      unitsAt_strictMono (Nat.lt_succ_self _)
    have far : (2 * (place * 2 ^ binade) + 1) * den ≤
        (unitsAt (binade * binadeSize + place) + unitsAt (binade * binadeSize + place + 1)) * den :=
      Nat.mul_le_mul_right den (by omega)
    have strict : 2 * num < (2 * (place * 2 ^ binade) + 1) * den := by
      rw [top]
      linarith
    omega
  · have next : unitsAt (binade * binadeSize + (place + 1)) = (place + 1) * 2 ^ binade :=
      unitsAt_binade (by omega) (by omega)
    have middle : (place * 2 ^ binade + (place + 1) * 2 ^ binade) * den = (2 * place + 1) * (den * 2 ^ binade) := by
      ring
    rw [here, Nat.add_assoc, next, middle]
    exact ⟨near, id⟩

/-- Below a place of a binade the middle is half a spacing away, or nearer where the binade starts. -/
theorem below_place {num den binade place k : Nat} (positive : 0 < den) (inside : place ≤ 2 * binadeSize)
    (lead : binade = 0 ∨ binadeSize ≤ place) (start : binade ≠ 0 → binadeSize * (den * 2 ^ binade) ≤ num)
    (near : 2 * place * (den * 2 ^ binade) ≤ 2 * num + den * 2 ^ binade)
    (before : binade * binadeSize + place = k + 1) :
    (unitsAt k + unitsAt (binade * binadeSize + place)) * den ≤ 2 * num ∧
      ((unitsAt k + unitsAt (binade * binadeSize + place)) * den = 2 * num →
        2 * place * (den * 2 ^ binade) = 2 * num + den * 2 ^ binade) := by
  have here : unitsAt (binade * binadeSize + place) = place * 2 ^ binade := unitsAt_binade inside lead
  by_cases first : binade ≠ 0 ∧ place = binadeSize
  · obtain ⟨high, rfl⟩ := first
    have down : unitsAt k < unitsAt (binade * binadeSize + binadeSize) := unitsAt_strictMono (by omega)
    have close : (unitsAt k + unitsAt (binade * binadeSize + binadeSize) + 1) * den ≤
        2 * (binadeSize * 2 ^ binade) * den := Nat.mul_le_mul_right den (by omega)
    have reached := start high
    have strict : (unitsAt k + unitsAt (binade * binadeSize + binadeSize)) * den < 2 * num := by linarith
    omega
  · obtain ⟨previous, rfl⟩ : ∃ previous, place = previous + 1 := by
      refine ⟨place - 1, ?_⟩
      by_contra none
      obtain rfl : place = 0 := by omega
      rcases lead with rfl | large
      · omega
      · rw [binadeSize_eq] at large
        omega
    obtain rfl : k = binade * binadeSize + previous := by omega
    have last : unitsAt (binade * binadeSize + previous) = previous * 2 ^ binade :=
      unitsAt_binade (by omega) (by omega)
    have middle : (previous * 2 ^ binade + (previous + 1) * 2 ^ binade) * den + den * 2 ^ binade =
        2 * (previous + 1) * (den * 2 ^ binade) := by ring
    rw [here, last]
    omega

/-- One rounded quotient in the binade finds the nearest double. -/
theorem rounds_roundedMagnitude (num : Nat) {den : Nat} (positive : 0 < den) :
    Rounds num den (roundedMagnitude num den) := by
  have below := lt_binade num positive
  have start := @binade_le num den
  unfold roundedMagnitude
  simp only
  generalize (num / den).log2 - 52 = binade at below start ⊢
  have spacing : 0 < den * 2 ^ binade := Nat.mul_pos positive (Nat.two_pow_pos binade)
  obtain ⟨near, near', even, even'⟩ := roundHalfEven_near num spacing
  generalize roundHalfEven num (den * 2 ^ binade) = place at near near' even even' ⊢
  have inside : place ≤ 2 * binadeSize := by
    by_contra beyond
    have : (2 * binadeSize + 1) * (den * 2 ^ binade) ≤ place * (den * 2 ^ binade) := Nat.mul_le_mul_right _ (by omega)
    linarith
  have lead : binade = 0 ∨ binadeSize ≤ place := by
    by_cases low : binade = 0
    · exact .inl low
    · right
      by_contra before
      have : (place + 1) * (den * 2 ^ binade) ≤ binadeSize * (den * 2 ^ binade) := Nat.mul_le_mul_right _ (by omega)
      have := start low
      linarith
  -- a binade holds an even number of doubles
  have parity : (binade * binadeSize + place) % 2 = place % 2 := by
    rw [binadeSize_eq]
    omega
  have up := above_place positive inside lead below near
  constructor
  · exact up.1
  · intro k before
    exact (below_place positive inside lead start near' before).1
  · intro tie
    rw [parity]
    exact even (up.2 tie)
  · intro k before tie
    rw [parity]
    exact even' ((below_place positive inside lead start near' before).2 tie)

/-- There is one nearest double. -/
theorem Rounds.unique {num den m m' : Nat} (positive : 0 < den) (rounds : Rounds num den m)
    (rounds' : Rounds num den m') : m = m' :=
  Nat.le_antisymm (rounds.le rounds' positive positive (Nat.le_refl _))
    (rounds'.le rounds positive positive (Nat.le_refl _))

/-- A double is the nearest to itself. -/
theorem rounds_unitsAt (m : Nat) {den : Nat} (positive : 0 < den) : Rounds (unitsAt m * den) den m := by
  have up : unitsAt m < unitsAt (m + 1) := unitsAt_strictMono (Nat.lt_succ_self m)
  have far : (2 * unitsAt m + 1) * den ≤ (unitsAt m + unitsAt (m + 1)) * den :=
    Nat.mul_le_mul_right den (by omega)
  have near : ∀ k, m = k + 1 → (unitsAt k + unitsAt m) * den < 2 * (unitsAt m * den) := by
    intro k before
    have down : unitsAt k < unitsAt m := unitsAt_strictMono (by omega)
    have close : (unitsAt k + unitsAt m + 1) * den ≤ 2 * unitsAt m * den := Nat.mul_le_mul_right den (by omega)
    linarith
  constructor
  · linarith
  · intro k before
    exact Nat.le_of_lt (near k before)
  · intro tie
    linarith
  · intro k before tie
    have := near k before
    omega

theorem unitsPerOne_pos : 0 < unitsPerOne := by decide +kernel

/-- Rounding to the nearest double is monotone. -/
theorem nearestMagnitude_le {num den num' den' : Nat} (positive : 0 < den) (positive' : 0 < den')
    (le : num * den' ≤ num' * den) : nearestMagnitude num den ≤ nearestMagnitude num' den' := by
  rw [nearestMagnitude_eq, nearestMagnitude_eq]
  have scaled : num * unitsPerOne * den' ≤ num' * unitsPerOne * den := by
    calc num * unitsPerOne * den'
      _ = num * den' * unitsPerOne := by ring
      _ ≤ num' * den * unitsPerOne := Nat.mul_le_mul_right _ le
      _ = num' * unitsPerOne * den := by ring
  have rounded := (rounds_roundedMagnitude _ positive).le (rounds_roundedMagnitude _ positive') positive positive' scaled
  exact min_le_min_right infinityMagnitude rounded

/-- The rounded quotient is the nearest double, unless that is beyond the finite ones. -/
theorem nearestMagnitude_eq_of_rounds {num den m : Nat} (positive : 0 < den) (rounds : Rounds (num * unitsPerOne) den m)
    (finite : m < infinityMagnitude) : nearestMagnitude num den = m := by
  rw [nearestMagnitude_eq, (rounds_roundedMagnitude _ positive).unique positive rounds]
  exact Nat.min_eq_left (Nat.le_of_lt finite)

theorem rounds_nearestMagnitude {num den : Nat} (positive : 0 < den)
    (finite : nearestMagnitude num den < infinityMagnitude) :
    Rounds (num * unitsPerOne) den (nearestMagnitude num den) := by
  have rounds := rounds_roundedMagnitude (num * unitsPerOne) positive
  have same : nearestMagnitude num den = roundedMagnitude (num * unitsPerOne) den := by
    rw [nearestMagnitude_eq] at finite ⊢
    omega
  rwa [same]

/-- A quotient that is a finite double rounds to it. -/
theorem nearestMagnitude_of_units {num den : Nat} {x : Double} (finite : x.isFinite = true) (positive : 0 < den)
    (exactly : num * unitsPerOne = x.units * den) : nearestMagnitude num den = x.magnitude := by
  have rounds := rounds_unitsAt x.magnitude positive
  rw [← units_eq, ← exactly] at rounds
  exact nearestMagnitude_eq_of_rounds positive rounds (of_decide_eq_true finite)

/-- The doubles are so dense that the two neighbours of one are apart by more than `2 / 10 ^ 16` of it. -/
theorem unitsAt_spacing (k : Nat) : 2 * unitsAt (k + 1) + 10 ^ 16 * unitsAt k < 10 ^ 16 * unitsAt (k + 2) := by
  obtain ⟨binade, place, rfl, inside, lead⟩ := exists_binade k
  have first : unitsAt (binade * binadeSize + place) = place * 2 ^ binade := unitsAt_binade (by omega) lead
  have second : unitsAt (binade * binadeSize + (place + 1)) = (place + 1) * 2 ^ binade :=
    unitsAt_binade (by omega) (by omega)
  have third : (place + 2) * 2 ^ binade ≤ unitsAt (binade * binadeSize + (place + 2)) := by
    by_cases top : place + 2 ≤ 2 * binadeSize
    · rw [unitsAt_binade top (by omega)]
    · -- the spacing doubles with the next binade
      have next : binade * binadeSize + (place + 2) = (binade + 1) * binadeSize + (binadeSize + 1) := by
        rw [binadeSize_eq] at inside top ⊢
        omega
      rw [next, unitsAt_binade (by rw [binadeSize_eq]; omega) (by omega), pow_succ, ← mul_assoc]
      calc (place + 2) * 2 ^ binade
        _ ≤ (binadeSize + 1) * 2 * 2 ^ binade := Nat.mul_le_mul_right _ (by omega)
        _ = (binadeSize + 1) * 2 ^ binade * 2 := by ring
  have spacing : 0 < 2 ^ binade := Nat.two_pow_pos binade
  have bound : (place + 1) * 2 ^ binade ≤ 2 * binadeSize * 2 ^ binade := Nat.mul_le_mul_right _ inside
  rw [Nat.add_assoc, Nat.add_assoc, first, second]
  rw [binadeSize_eq] at bound
  linarith

end RecordCheck.Double
