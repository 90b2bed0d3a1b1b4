import RecordCheck.Proofs.Double.Decimal

/-!
# The shortest decimal of a double

The decimal that `Double.shortest` gives for a finite double reads back as that double (`Double.toDouble_shortest`), and
no decimal that reads back has fewer significant digits (`Double.length_shortest_le`). The decimals that read back lie
around the size of the double without a gap (`Decimal.toDouble_between`), so one on a grid leaves one of the two
neighbours on that grid; and the grid of seventeen digits is always fine enough (`Double.nearestOnGrid?_seventeen`).
Where the point of the shortest decimal stands is decided by comparing doubles (`Double.lt_point_shortest_iff`).
-/

namespace RecordCheck

variable {tie : Tie} {x : Double} {d : Decimal}

/-- How often a power of ten fits into the double. -/
def Double.floorAt (x : Double) (exponent : ℤ) : Nat :=
  x.units * Nat.pow 10 (-exponent).toNat / (unitsPerOne * Nat.pow 10 exponent.toNat)

/-- The greatest decimal on a grid that does not exceed the double. -/
def Double.gridBelow (x : Double) (precision : Nat) : Decimal :=
  ⟨x.floorAt (x.pointPlace - precision), x.pointPlace - precision⟩

/-- The least decimal on a grid that exceeds the double. -/
def Double.gridAbove (x : Double) (precision : Nat) : Decimal :=
  ⟨x.floorAt (x.pointPlace - precision) + 1, x.pointPlace - precision⟩

/-- What is taken from a grid is one of the two neighbours that read back, if there is one. -/
theorem Double.nearestOnGrid?_eq (tie : Tie) (x : Double) (precision : Nat) : ∃ closerBelow : Bool,
    x.nearestOnGrid? tie precision =
      match decide ((x.gridBelow precision).toDouble x.negative = x),
          decide ((x.gridAbove precision).toDouble x.negative = x) with
      | true, true => some (if closerBelow then x.gridBelow precision else x.gridAbove precision)
      | true, false => some (x.gridBelow precision)
      | false, true => some (x.gridAbove precision)
      | false, false => none := ⟨_, rfl⟩

theorem Double.of_nearestOnGrid? {precision : Nat} (found : x.nearestOnGrid? tie precision = some d) :
    (d = x.gridBelow precision ∨ d = x.gridAbove precision) ∧ d.toDouble x.negative = x := by
  obtain ⟨closerBelow, choice⟩ := nearestOnGrid?_eq tie x precision
  rw [choice] at found
  cases below : decide ((x.gridBelow precision).toDouble x.negative = x) <;>
    cases above : decide ((x.gridAbove precision).toDouble x.negative = x) <;> rw [below, above] at found
  · cases found
  · cases found
    exact ⟨.inr rfl, of_decide_eq_true above⟩
  · cases found
    exact ⟨.inl rfl, of_decide_eq_true below⟩
  · cases closerBelow with
    | false =>
        cases found
        exact ⟨.inr rfl, of_decide_eq_true above⟩
    | true =>
        cases found
        exact ⟨.inl rfl, of_decide_eq_true below⟩

/-- Nothing is taken from a grid only if neither neighbour reads back. -/
theorem Double.not_reads_of_nearestOnGrid? {precision : Nat} (failed : x.nearestOnGrid? tie precision = none) :
    (x.gridBelow precision).toDouble x.negative ≠ x ∧ (x.gridAbove precision).toDouble x.negative ≠ x := by
  obtain ⟨closerBelow, choice⟩ := nearestOnGrid?_eq tie x precision
  rw [choice] at failed
  cases below : decide ((x.gridBelow precision).toDouble x.negative = x) <;>
    cases above : decide ((x.gridAbove precision).toDouble x.negative = x) <;> rw [below, above] at failed
  · exact ⟨of_decide_eq_false below, of_decide_eq_false above⟩
  all_goals cases failed

/-- A multiple of a negative power of two as a decimal. -/
theorem Decimal.num_mul_two_pow (n k : Nat) :
    (⟨n * Nat.pow 5 k, -(k : ℤ)⟩ : Decimal).num * Nat.pow 2 k = n * (⟨n * Nat.pow 5 k, -(k : ℤ)⟩ : Decimal).den := by
  have whole : (-(k : ℤ)).toNat = 0 := by omega
  have places : (- -(k : ℤ)).toNat = k := by omega
  simp only [num, den, whole, places, Nat.pow_eq, Nat.pow_zero, Nat.mul_one]
  rw [Nat.mul_assoc, ← Nat.mul_pow]

theorem Double.num_exactDecimal (x : Double) : x.exactDecimal.num * unitsPerOne = x.units * x.exactDecimal.den :=
  Decimal.num_mul_two_pow x.units 1074

theorem Double.toDouble_exactDecimal (finite : x.isFinite = true) : x.exactDecimal.toDouble x.negative = x := by
  have magnitude := nearestMagnitude_of_units finite x.exactDecimal.den_pos x.num_exactDecimal
  simp only [Decimal.toDouble, nearest, magnitude]

/-- Only zero is nearest to a decimal that is zero. -/
theorem Decimal.coefficient_pos (reads : d.toDouble x.negative = x) (nonzero : x.isZero = false) :
    0 < d.coefficient := by
  by_contra none
  have zero : d.value = (⟨0, 0⟩ : Decimal).value := by
    rw [value, value, Nat.eq_zero_of_not_pos none]
    ring
  have magnitude : x.magnitude = 0 := by
    have positive : ∀ negative, ((⟨0, 0⟩ : Decimal).toDouble negative).magnitude = 0 := by decide +kernel
    rw [← reads, toDouble_congr x.negative zero, positive]
  rw [Double.isZero, magnitude] at nonzero
  cases nonzero

/-- The absolute value of a finite double. -/
def Double.size (x : Double) : ℚ := x.units / unitsPerOne

theorem Double.unitsPerOne_cast_pos : (0 : ℚ) < unitsPerOne := by exact_mod_cast unitsPerOne_pos

theorem Decimal.value_le_size_iff : d.value ≤ x.size ↔ d.num * Double.unitsPerOne ≤ x.units * d.den := by
  have positive : (0 : ℚ) < d.den := by exact_mod_cast d.den_pos
  rw [← num_div_den, Double.size, div_le_div_iff₀ positive Double.unitsPerOne_cast_pos]
  exact_mod_cast Iff.rfl

theorem Double.value_exactDecimal (x : Double) : x.exactDecimal.value = x.size := by
  have positive : (0 : ℚ) < x.exactDecimal.den := by exact_mod_cast x.exactDecimal.den_pos
  rw [← Decimal.num_div_den, size, div_eq_div_iff positive.ne' unitsPerOne_cast_pos.ne']
  exact_mod_cast x.num_exactDecimal

/-- What lies between a double and a decimal that reads back as it reads back too. -/
theorem Decimal.toDouble_between (finite : x.isFinite = true) {e : Decimal} (reads : d.toDouble x.negative = x)
    (between : d.value ≤ e.value ∧ e.value ≤ x.size ∨ x.size ≤ e.value ∧ e.value ≤ d.value) :
    e.toDouble x.negative = x := by
  have exactly := Double.toDouble_exactDecimal finite
  have value := x.value_exactDecimal
  rw [← value] at between
  refine Double.eq_of_magnitude (negative_toDouble x.negative e) ?_
  rcases between with ⟨first, second⟩ | ⟨first, second⟩
  · have lower := magnitude_toDouble_le x.negative x.negative first
    have upper := magnitude_toDouble_le x.negative x.negative second
    rw [reads] at lower
    rw [exactly] at upper
    exact Nat.le_antisymm upper lower
  · have lower := magnitude_toDouble_le x.negative x.negative first
    have upper := magnitude_toDouble_le x.negative x.negative second
    rw [exactly] at lower
    rw [reads] at upper
    exact Nat.le_antisymm upper lower

theorem Double.le_floorAt_iff {n : Nat} {exponent : ℤ} :
    n ≤ x.floorAt exponent ↔ (⟨n, exponent⟩ : Decimal).value ≤ x.size := by
  have positive : 0 < unitsPerOne * Nat.pow 10 exponent.toNat := Nat.mul_pos unitsPerOne_pos (Nat.pow_pos (by decide))
  rw [Decimal.value_le_size_iff, floorAt, Nat.le_div_iff_mul_le positive, Decimal.num, Decimal.den]
  simp only
  rw [← Nat.mul_assoc, Nat.mul_right_comm n, Nat.mul_right_comm n]

theorem Double.units_pos (nonzero : x.isZero = false) : 0 < x.units := by
  have magnitude : x.magnitude ≠ 0 := of_decide_eq_false nonzero
  have above : unitsAt 0 < unitsAt x.magnitude := unitsAt_strictMono (by omega)
  exact Nat.lt_of_le_of_lt (Nat.zero_le _) above

/-- Every power of ten on a grid is a decimal of the grid. -/
theorem Decimal.value_pow (place exponent : ℤ) (coarse : exponent ≤ place) :
    (⟨10 ^ (place - exponent).toNat, exponent⟩ : Decimal).value = (10 : ℚ) ^ place := by
  have split : place = ((place - exponent).toNat : ℤ) + exponent := by omega
  conv_rhs => rw [split, zpow_add₀ (by norm_num), zpow_natCast]
  rw [value]
  push_cast
  rfl

theorem Double.floorAt_finest (x : Double) : x.floorAt (-324) = x.units * Nat.pow 10 324 / unitsPerOne := by
  have one : Nat.pow 10 (-324 : ℤ).toNat = 1 := rfl
  rw [floorAt, one, Nat.mul_one]
  rfl

/-- The point of a double is the place of its size between two powers of ten. -/
theorem Double.lt_pointPlace_iff (nonzero : x.isZero = false) (place : ℤ) :
    place < x.pointPlace ↔ (10 : ℚ) ^ place ≤ x.size := by
  have point : x.pointPlace = (⟨x.floorAt (-324), -324⟩ : Decimal).point := by
    rw [pointPlace, Decimal.point, Decimal.digits, floorAt_finest]
    rfl
  have least : 0 < x.floorAt (-324) := by
    have small : unitsPerOne ≤ Nat.pow 10 324 := by decide +kernel
    rw [floorAt_finest]
    exact Nat.div_pos (Nat.le_trans small (Nat.le_mul_of_pos_left _ (units_pos nonzero))) unitsPerOne_pos
  rw [point, Decimal.lt_point_iff least]
  constructor
  · intro reached
    exact reached.trans (le_floorAt_iff.mp (Nat.le_refl _))
  · intro reached
    by_cases coarse : -324 ≤ place
    · rw [← Decimal.value_pow place (-324) coarse] at reached ⊢
      have le := le_floorAt_iff.mpr reached
      exact mul_le_mul_of_nonneg_right (by exact_mod_cast le) (by positivity)
    · calc (10 : ℚ) ^ place
        _ ≤ 1 * 10 ^ (-324 : ℤ) := by
          rw [one_mul]
          exact zpow_le_zpow_right₀ (by norm_num) (by omega)
        _ ≤ (⟨x.floorAt (-324), -324⟩ : Decimal).value :=
          mul_le_mul_of_nonneg_right (by exact_mod_cast least) (by positivity)

/-- If a decimal of a grid reads back, then so does one of the two neighbours. -/
theorem Double.nearestOnGrid?_ne_none (finite : x.isFinite = true) {precision n : Nat}
    (reads : (⟨n, x.pointPlace - precision⟩ : Decimal).toDouble x.negative = x) :
    x.nearestOnGrid? tie precision ≠ none := by
  intro failed
  obtain ⟨notBelow, notAbove⟩ := not_reads_of_nearestOnGrid? failed
  have ordered : ∀ {m k : Nat}, m ≤ k →
      (⟨m, x.pointPlace - precision⟩ : Decimal).value ≤ (⟨k, x.pointPlace - precision⟩ : Decimal).value :=
    fun le => mul_le_mul_of_nonneg_right (by exact_mod_cast le) (by positivity)
  by_cases below : n ≤ x.floorAt (x.pointPlace - precision)
  · exact notBelow (Decimal.toDouble_between finite reads (.inl ⟨ordered below, le_floorAt_iff.mp (Nat.le_refl _)⟩))
  · have exceeds : x.size ≤ (x.gridAbove precision).value := by
      have beyond := mt le_floorAt_iff.mpr (Nat.not_le.mpr (Nat.lt_succ_self (x.floorAt (x.pointPlace - precision))))
      exact (not_le.mp beyond).le
    exact notAbove (Decimal.toDouble_between finite reads (.inr ⟨exceeds, ordered (Nat.lt_of_not_le below)⟩))

/-- A decimal that reads back with so many digits leaves one on the grid of that many digits. -/
theorem Double.nearestOnGrid?_of_reads (finite : x.isFinite = true) (nonzero : x.isZero = false)
    (reads : d.toDouble x.negative = x) {precision : Nat} (length : d.significant.length ≤ precision) :
    x.nearestOnGrid? tie precision ≠ none := by
  have positive := Decimal.coefficient_pos reads nonzero
  have counted : 0 < d.significant.length := List.length_pos_iff.mpr (Decimal.significant_ne_nil positive)
  by_cases within : x.pointPlace ≤ d.point
  · -- the decimal lies on the grid itself
    have split : d.point - d.significant.length =
        ((d.point - d.significant.length - (x.pointPlace - precision)).toNat : ℤ) + (x.pointPlace - precision) := by
      omega
    have same : (⟨Nat.ofDigitChars 10 d.significant 0 *
        10 ^ (d.point - d.significant.length - (x.pointPlace - precision)).toNat, x.pointPlace - precision⟩ :
        Decimal).value = d.value := by
      rw [Decimal.value_eq_significant d, split, zpow_add₀ (by norm_num), zpow_natCast, Decimal.value, ← split]
      push_cast
      ring
    exact nearestOnGrid?_ne_none finite ((Decimal.toDouble_congr x.negative same).trans reads)
  · -- the power of ten below the double lies on the grid, and between the two
    have power := Decimal.value_pow (x.pointPlace - 1) (x.pointPlace - precision) (by omega)
    have above : (10 : ℚ) ^ (x.pointPlace - 1) ≤ x.size := (lt_pointPlace_iff nonzero _).mp (by omega)
    have below : d.value ≤ (10 : ℚ) ^ (x.pointPlace - 1) := by
      have beyond := mt (Decimal.lt_point_iff positive (x.pointPlace - 1)).mpr (by omega)
      exact (not_le.mp beyond).le
    rw [← power] at above below
    exact nearestOnGrid?_ne_none finite (Decimal.toDouble_between finite reads (.inl ⟨below, above⟩))

/-- A decimal that is nearer to the double than to both its neighbours reads back. -/
theorem Decimal.toDouble_of_near (finite : x.isFinite = true)
    (above : 2 * (d.value * Double.unitsPerOne) < Double.unitsAt x.magnitude + Double.unitsAt (x.magnitude + 1))
    (below : ∀ k, x.magnitude = k + 1 →
      (Double.unitsAt k + Double.unitsAt x.magnitude : ℚ) < 2 * (d.value * Double.unitsPerOne)) :
    d.toDouble x.negative = x := by
  have positive : (0 : ℚ) < d.den := by exact_mod_cast d.den_pos
  have scaled : d.value * Double.unitsPerOne * d.den = (d.num * Double.unitsPerOne : ℕ) := by
    rw [← num_div_den, mul_right_comm, div_mul_cancel₀ _ positive.ne', Nat.cast_mul]
  have strictAbove : 2 * (d.num * Double.unitsPerOne) <
      (Double.unitsAt x.magnitude + Double.unitsAt (x.magnitude + 1)) * d.den := by
    have := mul_lt_mul_of_pos_right above positive
    rw [mul_assoc, scaled] at this
    exact_mod_cast this
  have strictBelow : ∀ k, x.magnitude = k + 1 →
      (Double.unitsAt k + Double.unitsAt x.magnitude) * d.den < 2 * (d.num * Double.unitsPerOne) := by
    intro k before
    have := mul_lt_mul_of_pos_right (below k before) positive
    rw [mul_assoc 2, scaled] at this
    exact_mod_cast this
  have rounds : Double.Rounds (d.num * Double.unitsPerOne) d.den x.magnitude := by
    constructor
    · exact Nat.le_of_lt strictAbove
    · intro k before
      exact Nat.le_of_lt (strictBelow k before)
    · intro tie
      omega
    · intro k before tie
      have := strictBelow k before
      omega
  exact Double.eq_of_magnitude (negative_toDouble x.negative d)
    (Double.nearestMagnitude_eq_of_rounds d.den_pos rounds (of_decide_eq_true finite))

/-- Seventeen digits always suffice. -/
theorem Double.nearestOnGrid?_seventeen (finite : x.isFinite = true) (nonzero : x.isZero = false) :
    x.nearestOnGrid? tie 17 ≠ none := by
  intro failed
  obtain ⟨notBelow, notAbove⟩ := not_reads_of_nearestOnGrid? failed
  obtain ⟨k, before⟩ : ∃ k, x.magnitude = k + 1 := by
    have magnitude : x.magnitude ≠ 0 := of_decide_eq_false nonzero
    exact ⟨x.magnitude - 1, by omega⟩
  have units : x.size * unitsPerOne = unitsAt (k + 1) := by
    rw [size, div_mul_cancel₀ _ unitsPerOne_cast_pos.ne', units_eq, before]
  -- the grid and the double
  have step : (x.gridAbove 17).value = (x.gridBelow 17).value + 10 ^ (x.pointPlace - 17) := by
    simp only [Decimal.value, gridAbove, gridBelow]
    push_cast
    ring
  have reached : (x.gridBelow 17).value ≤ x.size := le_floorAt_iff.mp (Nat.le_refl _)
  have exceeded : x.size < (x.gridAbove 17).value :=
    not_le.mp (mt le_floorAt_iff.mpr (Nat.not_le.mpr (Nat.lt_succ_self _)))
  have fine : 10 ^ 16 * (10 : ℚ) ^ (x.pointPlace - 17) ≤ x.size := by
    have power : (10 : ℚ) ^ (x.pointPlace - 1) = 10 ^ 16 * 10 ^ (x.pointPlace - 17) := by
      rw [← zpow_natCast, ← zpow_add₀ (by norm_num)]
      congr 1
      push_cast
      ring
    rw [← power]
    exact (lt_pointPlace_iff nonzero _).mp (by omega)
  -- the double and its neighbours
  have lower : (unitsAt k : ℚ) < unitsAt (k + 1) := by exact_mod_cast unitsAt_strictMono (Nat.lt_succ_self k)
  have upper : (unitsAt (k + 1) : ℚ) < unitsAt (k + 2) := by exact_mod_cast unitsAt_strictMono (Nat.lt_succ_self _)
  have spacing : 2 * (unitsAt (k + 1) : ℚ) + 10 ^ 16 * unitsAt k < 10 ^ 16 * unitsAt (k + 2) := by
    exact_mod_cast unitsAt_spacing k
  have reachedUnits := mul_le_mul_of_nonneg_right reached unitsPerOne_cast_pos.le
  have exceededUnits := mul_lt_mul_of_pos_right exceeded unitsPerOne_cast_pos
  have fineUnits := mul_le_mul_of_nonneg_right fine unitsPerOne_cast_pos.le
  rw [units] at reachedUnits exceededUnits fineUnits
  have farBelow : 2 * ((x.gridBelow 17).value * unitsPerOne) ≤ unitsAt k + unitsAt (k + 1) := by
    by_contra near
    refine notBelow (Decimal.toDouble_of_near finite ?_ ?_)
    · rw [before]
      linarith
    · intro k' before'
      obtain rfl : k' = k := by omega
      rw [before]
      exact not_le.mp near
  have farAbove : unitsAt (k + 1) + unitsAt (k + 2) ≤ 2 * ((x.gridAbove 17).value * unitsPerOne) := by
    by_contra near
    refine notAbove (Decimal.toDouble_of_near finite ?_ ?_)
    · rw [before]
      exact not_le.mp near
    · intro k' before'
      obtain rfl : k' = k := by omega
      rw [before]
      linarith
  rw [step] at farAbove
  linarith

/-- The decimals on a grid around a double have no more digits than the grid. -/
theorem Double.length_of_nearestOnGrid? (nonzero : x.isZero = false) {precision : Nat} (positive : 0 < precision)
    (found : x.nearestOnGrid? tie precision = some d) : d.significant.length ≤ precision := by
  have small : x.floorAt (x.pointPlace - precision) < 10 ^ precision := by
    by_contra large
    have reached := le_floorAt_iff.mp (Nat.le_of_not_lt large)
    have power := Decimal.value_pow x.pointPlace (x.pointPlace - precision) (by omega)
    have places : (x.pointPlace - (x.pointPlace - precision)).toNat = precision := by omega
    rw [places] at power
    rw [power] at reached
    exact absurd ((lt_pointPlace_iff nonzero _).mpr reached) (lt_irrefl _)
  apply Decimal.length_significant_le positive
  rcases (of_nearestOnGrid? found).1 with rfl | rfl
  · exact Nat.le_of_lt small
  · exact small

/-- No decimal that reads back has fewer significant digits than the shortest. -/
theorem Double.length_shortest_le (tie : Tie) (finite : x.isFinite = true) (nonzero : x.isZero = false)
    (reads : d.toDouble x.negative = x) : (x.shortest tie).significant.length ≤ d.significant.length := by
  have counted : 0 < d.significant.length :=
    List.length_pos_iff.mpr (Decimal.significant_ne_nil (Decimal.coefficient_pos reads nonzero))
  -- a grid on which the search succeeds, if it is not over before
  obtain ⟨last, found, within, few⟩ : ∃ last, x.nearestOnGrid? tie (last + 1) ≠ none ∧ last < 17 ∧
      last + 1 ≤ d.significant.length := by
    by_cases many : 17 ≤ d.significant.length
    · exact ⟨16, nearestOnGrid?_seventeen finite nonzero, by omega, many⟩
    · refine ⟨d.significant.length - 1, ?_, by omega, by omega⟩
      exact nearestOnGrid?_of_reads finite nonzero reads (by omega)
  unfold shortest
  cases search : (List.range 17).findSome? fun i => x.nearestOnGrid? tie (i + 1) with
  | none => exact absurd (List.findSome?_eq_none_iff.mp search last (List.mem_range.mpr within)) found
  | some shortest =>
      obtain ⟨earlier, i, later, split, taken, failed⟩ := List.findSome?_eq_some_iff.mp search
      have length := length_of_nearestOnGrid? nonzero (Nat.succ_pos i) taken
      have first : i ≤ last := by
        have member : last ∈ List.range 17 := List.mem_range.mpr within
        have ordered := List.pairwise_lt_range (n := 17)
        rw [split] at member ordered
        rcases List.mem_append.mp member with early | late
        · exact absurd (failed last early) found
        · rcases List.mem_cons.mp late with rfl | late
          · exact Nat.le_refl _
          · exact Nat.le_of_lt ((List.pairwise_cons.mp (List.pairwise_append.mp ordered).2.1).1 last late)
      calc shortest.significant.length
        _ ≤ i + 1 := length
        _ ≤ d.significant.length := by omega

/-- The shortest decimal of a finite double reads back. -/
theorem Double.toDouble_shortest (tie : Tie) (finite : x.isFinite = true) :
    (x.shortest tie).toDouble x.negative = x := by
  unfold shortest
  cases search : (List.range 17).findSome? fun i => x.nearestOnGrid? tie (i + 1) with
  | none => exact toDouble_exactDecimal finite
  | some d =>
      obtain ⟨i, -, found⟩ := List.exists_of_findSome?_eq_some search
      exact (of_nearestOnGrid? found).2

/--
A double whose shortest decimal is not below a power of ten is not below the double nearest to that power, and
conversely, provided that this double itself is not written as a decimal below the power.
-/
theorem Double.lt_point_shortest_iff (tie : Tie) (finite : x.isFinite = true) (nonzero : x.isZero = false) (place : ℤ)
    (written : ∀ negative, place < (((⟨1, place⟩ : Decimal).toDouble negative).shortest tie).point) :
    place < (x.shortest tie).point ↔ ((⟨1, place⟩ : Decimal).toDouble false).magnitude ≤ x.magnitude := by
  have reads := toDouble_shortest tie finite
  have positive := Decimal.coefficient_pos reads nonzero
  have power : (⟨1, place⟩ : Decimal).value = (10 : ℚ) ^ place := by
    rw [Decimal.value, Nat.cast_one, one_mul]
  constructor
  · intro before
    have le := (Decimal.lt_point_iff positive place).mp before
    rw [← power] at le
    have ordered := Decimal.magnitude_toDouble_le false x.negative le
    rwa [reads] at ordered
  · intro above
    by_contra beyond
    have below := not_le.mp (mt (Decimal.lt_point_iff positive place).mpr beyond)
    rw [← power] at below
    have ordered := Decimal.magnitude_toDouble_le x.negative x.negative below.le
    rw [reads] at ordered
    rw [Decimal.magnitude_toDouble false x.negative] at above
    have same : (⟨1, place⟩ : Decimal).toDouble x.negative = x :=
      eq_of_magnitude (Decimal.negative_toDouble x.negative _) (Nat.le_antisymm above ordered)
    have itself := written x.negative
    rw [same] at itself
    exact beyond itself

end RecordCheck
