import RecordCheck.Proofs.Double.Shortest
import RecordCheck.Proofs.Json.Numeral
import RecordCheck.Value.Text

/-!
# The text of a number

The two notations of a `Layout` write the significant digits of a decimal and where its point stands; a `Json.Numeral`
with the same digits and point has the same value. With the shortest decimal of a double, which reads back as the double,
the text of a finite number reads back as that number (`ReadsAs`). Which notation is taken follows from the size of the
number alone (`Value.needsExponent_iff`). Both are put together in `Value.text_number_reads_back`, with what follows for
comparing two texts.
-/

namespace RecordCheck

open Json Json.Numeral

section Layout

variable {layout : Layout} {ds : List Char} {point : ℤ}

/-- Parts before and after a point that spell the number whose digits are `ds`, with `point` of them before the point. -/
structure Spells (ds : List Char) (point : ℤ) (whole fraction : List Char) : Prop where
  isWhole : Whole whole
  isDigits : ∀ c ∈ fraction, c.isDigit = true
  value : (Nat.ofDigitChars 10 (whole ++ fraction) 0 : ℚ) * 10 ^ (-(fraction.length : ℤ)) =
    Nat.ofDigitChars 10 ds 0 * 10 ^ (point - ds.length)

theorem isDigit_of_mem_replicate {n : Nat} {c : Char} (member : c ∈ List.replicate n '0') : c.isDigit = true := by
  rw [(List.mem_replicate.mp member).2]
  rfl

/-- A number below one starts with a zero, and zeros stand between the point and its digits. -/
theorem spells_below_one (isWhole : Whole ds) (small : point ≤ 0) :
    Spells ds point ['0'] (List.replicate (-point).toNat '0' ++ ds) := by
  constructor
  · exact ⟨List.cons_ne_nil _ _, by simp, .inl rfl⟩
  · intro c member
    exact (List.mem_append.mp member).elim isDigit_of_mem_replicate (isWhole.digits c)
  · have places : -((List.replicate (-point).toNat '0' ++ ds).length : ℤ) = point - ds.length := by
      rw [List.length_append, List.length_replicate]
      omega
    have value : Nat.ofDigitChars 10 (['0'] ++ (List.replicate (-point).toNat '0' ++ ds)) 0 =
        Nat.ofDigitChars 10 ds 0 := by
      rw [Nat.ofDigitChars_append, Nat.ofDigitChars_append, Nat.ofDigitChars_replicate_zero]
      rfl
    rw [places, value]

/-- Zeros fill a whole number up to its point. -/
theorem spells_whole (isWhole : Whole ds) (lead : ds.head? ≠ some '0') (large : (ds.length : ℤ) ≤ point) :
    Spells ds point (ds ++ List.replicate (point.toNat - ds.length) '0') [] := by
  constructor
  · refine ⟨List.append_ne_nil_of_left_ne_nil isWhole.nonempty _, ?_, .inr ?_⟩
    · intro c member
      exact (List.mem_append.mp member).elim (isWhole.digits c) isDigit_of_mem_replicate
    · rwa [List.head?_append_of_ne_nil _ isWhole.nonempty]
  · intro c member
    cases member
  · have places : point - ds.length = ((point.toNat - ds.length : ℕ) : ℤ) := by omega
    rw [places, List.append_nil, Nat.ofDigitChars_append, Nat.ofDigitChars_replicate_zero, zpow_natCast,
      List.length_nil, Nat.cast_zero, neg_zero, zpow_zero, mul_one]
    push_cast
    ring

/-- The point stands among the digits. -/
theorem spells_split (isWhole : Whole ds) (lead : ds.head? ≠ some '0') (positive : 0 < point)
    (small : point < ds.length) : Spells ds point (ds.take point.toNat) (ds.drop point.toNat) := by
  constructor
  · refine ⟨?_, ?_, .inr ?_⟩
    · intro empty
      rcases List.take_eq_nil_iff.mp empty with none | none
      · omega
      · exact isWhole.nonempty none
    · intro c member
      exact isWhole.digits c (List.mem_of_mem_take member)
    · rwa [List.head?_take, if_neg (by omega)]
  · intro c member
    exact isWhole.digits c (List.mem_of_mem_drop member)
  · have places : -((ds.drop point.toNat).length : ℤ) = point - ds.length := by
      rw [List.length_drop]
      omega
    rw [places, List.take_append_drop]

/-- Positional notation writes all digits, and zeros where they do not reach the point. -/
theorem Layout.positional_spells (plain : layout.pointZero = false) (isWhole : Whole ds) (lead : ds.head? ≠ some '0')
    (point : ℤ) :
    ∃ whole fraction, layout.positional ds point = whole ++ pointed fraction ∧ Spells ds point whole fraction := by
  unfold positional
  by_cases small : point ≤ 0
  · refine ⟨_, _, ?_, spells_below_one isWhole small⟩
    rw [if_pos small, pointed_of_ne_nil (List.append_ne_nil_of_right_ne_nil _ isWhole.nonempty)]
    rfl
  · by_cases large : ds.length ≤ point.toNat
    · refine ⟨_, _, ?_, spells_whole isWhole lead (by omega)⟩
      rw [if_neg small, if_pos large, plain]
      rfl
    · have after : ds.drop point.toNat ≠ [] := by
        intro empty
        exact large (List.drop_eq_nil_iff.mp empty)
      refine ⟨_, _, ?_, spells_split isWhole lead (by omega) (by omega)⟩
      rw [if_neg small, if_neg large, pointed_of_ne_nil after]

/-- Exponent notation writes all digits, the first before the point. -/
theorem Layout.scientific_eq (signed : layout.exponentPlus = true) (first : Char) (rest : List Char) (point : ℤ) :
    layout.scientific (first :: rest) point =
      [first] ++ pointed rest ++ 'e' :: (if decide (point ≤ 0) then '-' else '+') :: Nat.toDigits 10 (point - 1).natAbs := by
  have sign : (if point - 1 < 0 then ['-'] else if layout.exponentPlus then ['+'] else []) =
      [if decide (point ≤ 0) then '-' else '+'] := by
    by_cases down : point ≤ 0
    · rw [if_pos (by omega), if_pos (decide_eq_true down)]
    · rw [if_neg (by omega), if_pos signed, if_neg (by simpa using down)]
  simp only [scientific, sign]
  cases rest with
  | nil => rfl
  | cons => simp only [pointed, List.cons_append, List.nil_append, List.append_assoc]

end Layout

/-- A number in positional notation: digits, and perhaps a point with digits after it. -/
inductive Positional : List Char → Prop where
  | mk (negative : Bool) {whole fraction : List Char} (nonempty : whole ≠ [])
      (isDigits : ∀ c ∈ whole ++ fraction, c.isDigit = true) : Positional (sign negative ++ (whole ++ pointed fraction))

/-- A number in exponent notation: one digit other than zero before the point, and a sign before the exponent. -/
inductive Exponential : List Char → Prop where
  | mk (negative down : Bool) {first : Char} {fraction exponent : List Char} (nonzero : first ≠ '0')
      (nonempty : exponent ≠ []) (isDigits : ∀ c ∈ first :: fraction ++ exponent, c.isDigit = true) :
      Exponential (sign negative ++
        ([first] ++ pointed fraction ++ 'e' :: (if down then '-' else '+') :: exponent))

theorem Positional.not_exponential {cs : List Char} (positional : Positional cs) : ¬ Exponential cs := by
  have plain : 'e' ∉ cs := by
    obtain ⟨negative, nonempty, isDigits⟩ := positional
    rename_i whole fraction
    have letter : 'e' ∉ whole ++ fraction := by
      intro member
      cases isDigits 'e' member
    cases negative <;> cases fraction <;> simp_all [sign, pointed]
  intro exponential
  obtain ⟨negative, down, nonzero, nonempty, isDigits⟩ := exponential
  simp at plain

/--
The text scans as a numeral, and the double nearest to its exact value is numerically equal to `x`: no neighbour of `x`
is nearer to the value, and none is as near unless `x` is the even one.
-/
def ReadsAs (cs : List Char) (x : Double) : Prop :=
  ∃ numeral, scan? cs = some (numeral, []) ∧ (numeral.decimal.toDouble numeral.negative).numEq x = true ∧
    Double.Rounds (numeral.decimal.num * Double.unitsPerOne) numeral.decimal.den x.magnitude

theorem readsAs_of_numEq {cs : List Char} {numeral : Numeral} {x : Double} (finite : x.isFinite = true)
    (scanned : scan? cs = some (numeral, []))
    (equal : (numeral.decimal.toDouble numeral.negative).numEq x = true) : ReadsAs cs x := by
  have magnitude : Double.nearestMagnitude numeral.decimal.num numeral.decimal.den = x.magnitude := by
    rcases Double.eq_or_isZero_of_numEq equal with same | ⟨zero, zero'⟩
    · exact congrArg Double.magnitude same
    · have first : (numeral.decimal.toDouble numeral.negative).magnitude = 0 := of_decide_eq_true zero
      have second : x.magnitude = 0 := of_decide_eq_true zero'
      exact first.trans second.symm
  have bounded : x.magnitude < Double.infinityMagnitude := of_decide_eq_true finite
  rw [← magnitude] at bounded
  have rounds := Double.rounds_nearestMagnitude numeral.decimal.den_pos bounded
  rw [magnitude] at rounds
  exact ⟨numeral, scanned, equal, rounds⟩

/-- A text reads as one number only. -/
theorem ReadsAs.numEq {cs : List Char} {x y : Double} (reads : ReadsAs cs x) (reads' : ReadsAs cs y) :
    x.numEq y = true := by
  obtain ⟨numeral, scanned, equal, -⟩ := reads
  obtain ⟨numeral', scanned', equal', -⟩ := reads'
  cases scanned.symm.trans scanned'
  obtain ⟨-, isNumber, key⟩ := Double.numEq_iff.mp equal
  obtain ⟨-, isNumber', key'⟩ := Double.numEq_iff.mp equal'
  exact Double.numEq_iff.mpr ⟨isNumber, isNumber', key.symm.trans key'⟩

section Text

variable {x : Double}

theorem Decimal.whole_significant {d : Decimal} (positive : 0 < d.coefficient) : Whole d.significant :=
  ⟨significant_ne_nil positive, fun _ => isDigit_of_mem_significant, .inr (head?_significant positive)⟩

/-- A numeral with the sign of a double and the value of a decimal that reads back as the double reads as it. -/
theorem readsAs_of_value {cs : List Char} {numeral : Numeral} {d : Decimal} (finite : x.isFinite = true)
    (reads : d.toDouble x.negative = x) (scanned : scan? cs = some (numeral, []))
    (sameSign : numeral.negative = x.negative) (value : numeral.decimal.value = d.value) : ReadsAs cs x := by
  refine readsAs_of_numEq finite scanned ?_
  rw [sameSign, Decimal.toDouble_congr x.negative value, reads, Double.numEq_self,
    Double.isNaN_eq_false_of_isFinite finite]
  rfl

theorem readsAs_positional (layout : Layout) (plain : layout.pointZero = false) (tie : Tie) (finite : x.isFinite = true)
    (nonzero : x.isZero = false) :
    ReadsAs (sign x.negative ++ layout.positional (x.shortest tie).significant (x.shortest tie).point) x ∧
      Positional (sign x.negative ++ layout.positional (x.shortest tie).significant (x.shortest tie).point) := by
  have reads := Double.toDouble_shortest tie finite
  have positive := Decimal.coefficient_pos reads nonzero
  obtain ⟨whole, fraction, written, spells⟩ :=
    Layout.positional_spells plain (Decimal.whole_significant positive) (Decimal.head?_significant positive)
      (x.shortest tie).point
  rw [written]
  constructor
  · refine readsAs_of_value finite reads (scan?_positional x.negative spells.isWhole spells.isDigits) rfl ?_
    rw [value_positional, spells.value, ← Decimal.value_eq_significant]
  · refine .mk x.negative spells.isWhole.nonempty ?_
    intro c member
    exact (List.mem_append.mp member).elim (spells.isWhole.digits c) (spells.isDigits c)

theorem readsAs_scientific (layout : Layout) (signed : layout.exponentPlus = true) (tie : Tie) (finite : x.isFinite = true)
    (nonzero : x.isZero = false) :
    ReadsAs (sign x.negative ++ layout.scientific (x.shortest tie).significant (x.shortest tie).point) x ∧
      Exponential (sign x.negative ++ layout.scientific (x.shortest tie).significant (x.shortest tie).point) := by
  have reads := Double.toDouble_shortest tie finite
  have positive := Decimal.coefficient_pos reads nonzero
  have value := (x.shortest tie).value_eq_significant
  have isWhole := Decimal.whole_significant positive
  have lead := Decimal.head?_significant positive
  obtain ⟨first, rest, significant⟩ := List.exists_cons_of_ne_nil isWhole.nonempty
  rw [significant] at value isWhole lead ⊢
  generalize (x.shortest tie).point = point at value ⊢
  have firstDigit := isWhole.digits first List.mem_cons_self
  have restDigits : ∀ c ∈ rest, c.isDigit = true := fun c member => isWhole.digits c (List.mem_cons_of_mem _ member)
  have nonzeroFirst : first ≠ '0' := fun zero => lead (congrArg some zero)
  have exponentDigits : ∀ c ∈ Nat.toDigits 10 (point - 1).natAbs, c.isDigit = true := fun c =>
    Nat.isDigit_of_mem_toDigits (by decide) (by decide)
  have single : Whole [first] :=
    ⟨List.cons_ne_nil _ _, by simpa using firstDigit, .inr lead⟩
  rw [Layout.scientific_eq signed]
  constructor
  · refine readsAs_of_value finite reads
      (scan?_exponential x.negative _ single restDigits Nat.toDigits_ne_nil exponentDigits) rfl ?_
    have exponent : (if decide (point ≤ 0) then -((point - 1).natAbs : ℤ) else ((point - 1).natAbs : ℤ)) -
        (rest.length : ℤ) = point - ((first :: rest).length : ℕ) := by
      rw [List.length_cons]
      by_cases down : point ≤ 0
      · rw [if_pos (decide_eq_true down)]
        omega
      · rw [if_neg (by simpa using down)]
        omega
    rw [value_exponential, Nat.ofDigitChars_ten_toDigits, exponent, value]
    rfl
  · refine .mk x.negative _ nonzeroFirst Nat.toDigits_ne_nil ?_
    intro c member
    exact (List.mem_append.mp member).elim (isWhole.digits c) (exponentDigits c)

theorem Double.text_toList (layout : Layout) (finite : x.isFinite = true) (nonzero : x.isZero = false) :
    (x.text layout).toList =
      sign x.negative ++ layout.write (x.shortest layout.tie).significant (x.shortest layout.tie).point := by
  have number := isNaN_eq_false_of_isFinite finite
  have bounded : x.isInfinite = false := by
    simp only [isFinite, isInfinite, decide_eq_true_eq, decide_eq_false_iff_not] at finite ⊢
    omega
  cases negative : x.negative <;>
    simp [text, writeAbs, number, bounded, nonzero, negative, sign, String.toList_append]

end Text

/-- The same number without its sign. -/
def Double.abs (x : Double) : Double := { x with negative := false }

theorem Double.abs_lt_iff {x y : Double} (finite : x.isFinite = true) (finite' : y.isFinite = true)
    (positive : y.negative = false) : x.abs.lt y = true ↔ x.magnitude < y.magnitude := by
  have number : x.abs.isNaN = false := isNaN_eq_false_of_isFinite finite
  have number' := isNaN_eq_false_of_isFinite finite'
  have key : x.abs.key = x.magnitude := rfl
  have key' : y.key = y.magnitude := by simp [Double.key, positive]
  rw [lt, number, number', key, key', Bool.not_false, Bool.true_and, Bool.true_and, decide_eq_true_iff]
  exact Int.ofNat_lt

namespace Value

/-- Numbers other than zero that are at least `10 ^ 21` or below a millionth, signs apart. -/
def NeedsExponent (x : Double) : Prop :=
  x.isZero = false ∧
    (¬ x.abs.lt (Decimal.toDouble false ⟨1, 21⟩) ∨ x.abs.lt (Decimal.toDouble false ⟨1, -6⟩))

/-- The doubles that need an exponent are those whose shortest decimal lies outside the layout's range. -/
theorem needsExponent_iff {x : Double} (finite : x.isFinite = true) (nonzero : x.isZero = false) :
    NeedsExponent x ↔ ¬ (numberLayout.leastPoint ≤ (x.shortest numberLayout.tie).point ∧
      (x.shortest numberLayout.tie).point ≤ numberLayout.greatestPoint) := by
  have upper := Double.lt_point_shortest_iff numberLayout.tie finite nonzero 21 (by decide +kernel)
  have lower := Double.lt_point_shortest_iff numberLayout.tie finite nonzero (-6) (by decide +kernel)
  have upper' := Double.abs_lt_iff (y := Decimal.toDouble false ⟨1, 21⟩) finite (by decide +kernel) rfl
  have lower' := Double.abs_lt_iff (y := Decimal.toDouble false ⟨1, -6⟩) finite (by decide +kernel) rfl
  have least : numberLayout.leastPoint = -5 := rfl
  have greatest : numberLayout.greatestPoint = 21 := rfl
  rw [NeedsExponent, and_iff_right nonzero, upper', lower', Nat.not_lt, ← upper, ← Nat.not_le, ← lower, least, greatest]
  omega

theorem readsAs_zero {x : Double} (zero : x.isZero = true) : ReadsAs ['0'] x := by
  have read : ∀ negative, ((⟨false, [0], [], false, []⟩ : Numeral).decimal.toDouble false).numEq
      (Double.zero negative) = true := by decide +kernel
  have same : x = Double.zero x.negative := Double.eq_of_magnitude rfl (of_decide_eq_true zero)
  have finite : ∀ negative, (Double.zero negative).isFinite = true := by decide
  rw [same]
  exact readsAs_of_numEq (finite x.negative) rfl (read x.negative)

/-- The text of a finite number reads back, and its notation is that of its size. -/
theorem text_number_of_isFinite {x : Double} (finite : x.isFinite = true) :
    ReadsAs (number x).text.toList x ∧
      (NeedsExponent x → Exponential (number x).text.toList) ∧
      (¬ NeedsExponent x → Positional (number x).text.toList) := by
  cases zero : x.isZero with
  | true =>
      have text : (number x).text = "0" := Double.text_of_isZero rfl zero
      rw [text]
      refine ⟨readsAs_zero zero, ?_, ?_⟩
      · intro needs
        rw [NeedsExponent, zero] at needs
        cases needs.1
      · intro _
        exact @Positional.mk false ['0'] [] (List.cons_ne_nil _ _) (by simp)
  | false =>
      have text : (number x).text.toList = _ := Double.text_toList numberLayout finite zero
      rw [text, Layout.write, needsExponent_iff finite zero]
      by_cases inside : numberLayout.leastPoint ≤ (x.shortest numberLayout.tie).point ∧
          (x.shortest numberLayout.tie).point ≤ numberLayout.greatestPoint
      · obtain ⟨reads, positional⟩ := readsAs_positional numberLayout rfl numberLayout.tie finite zero
        rw [if_pos inside]
        exact ⟨reads, fun outside => absurd inside outside, fun _ => positional⟩
      · obtain ⟨reads, exponential⟩ := readsAs_scientific numberLayout rfl numberLayout.tie finite zero
        rw [if_neg inside]
        exact ⟨reads, fun _ => exponential, fun within => absurd inside within⟩

example : (ofInt (-1500000000000000000000)).text = "-1.5e+21" := by decide +kernel

example : (number (Decimal.toDouble false ⟨1, -6⟩)).text = "0.000001" := by decide +kernel

theorem text_of_isNaN {x : Double} (noNumber : x.isNaN = true) : (number x).text = "NaN" := by
  have text : (number x).text = x.text numberLayout := rfl
  rw [text, Double.text, if_pos noNumber]

theorem text_of_isInfinite {x : Double} (infinite : x.isInfinite = true) :
    (number x).text = if x.negative then "-Infinity" else "Infinity" := by
  have magnitude : x.magnitude = Double.infinityMagnitude := of_decide_eq_true infinite
  have isNumber : x.isNaN = false := by
    rw [Double.isNaN, magnitude]
    rfl
  have nonzero : x.isZero = false := by
    rw [Double.isZero, magnitude]
    rfl
  have text : (number x).text = x.text numberLayout := rfl
  rw [text, Double.text]
  cases negative : x.negative <;> simp [isNumber, infinite, nonzero]

theorem isInfinite_of_not_finite {x : Double} (large : x.isFinite = false) (isNumber : x.isNaN = false) :
    x.isInfinite = true := by
  simp only [Double.isFinite, Double.isNaN, Double.isInfinite, decide_eq_false_iff_not, decide_eq_true_eq]
    at large isNumber ⊢
  omega

/-- No numeral is the text of an infinity or of what is not a number. -/
theorem scan?_text_of_not_finite {x : Double} (large : x.isFinite = false) :
    scan? (number x).text.toList = none := by
  cases isNumber : x.isNaN with
  | true =>
      rw [text_of_isNaN isNumber]
      rfl
  | false =>
      rw [text_of_isInfinite (isInfinite_of_not_finite large isNumber)]
      cases x.negative <;> rfl

theorem text_number_congr {x y : Double} (same : x.numEq y = true ∨ x.isNaN = true ∧ y.isNaN = true) :
    (number x).text = (number y).text := by
  rcases same with equal | ⟨noNumber, noNumber'⟩
  · rcases Double.eq_or_isZero_of_numEq equal with rfl | ⟨zero, zero'⟩
    · rfl
    · exact (Double.text_of_isZero rfl zero).trans (Double.text_of_isZero rfl zero').symm
  · rw [text_of_isNaN noNumber, text_of_isNaN noNumber']

/-- The texts of what is not finite tell apart what differs. -/
theorem text_not_finite_injective {x y : Double} (large : x.isFinite = false) (large' : y.isFinite = false)
    (same : (number x).text = (number y).text) : x.numEq y = true ∨ x.isNaN = true ∧ y.isNaN = true := by
  have infinity : ∀ negative : Bool, (if negative then "-Infinity" else "Infinity") ≠ "NaN" := by decide
  cases isNumber : x.isNaN <;> cases isNumber' : y.isNaN
  · have infinite := isInfinite_of_not_finite large isNumber
    have infinite' := isInfinite_of_not_finite large' isNumber'
    rw [text_of_isInfinite infinite, text_of_isInfinite infinite'] at same
    have signs : ∀ negative negative' : Bool, (if negative then "-Infinity" else "Infinity") =
        (if negative' then "-Infinity" else "Infinity") → negative = negative' := by decide
    have magnitude : x.magnitude = y.magnitude :=
      (of_decide_eq_true infinite).trans (of_decide_eq_true infinite').symm
    have key : x.key = y.key := by rw [Double.key, Double.key, signs _ _ same, magnitude]
    exact .inl (Double.numEq_iff.mpr ⟨isNumber, isNumber', key⟩)
  · rw [text_of_isInfinite (isInfinite_of_not_finite large isNumber), text_of_isNaN isNumber'] at same
    exact absurd same (infinity _)
  · rw [text_of_isInfinite (isInfinite_of_not_finite large' isNumber'), text_of_isNaN isNumber] at same
    exact absurd same.symm (infinity _)
  · exact .inr ⟨rfl, rfl⟩

theorem text_number_injective {x y : Double} (same : (number x).text = (number y).text) :
    x.numEq y = true ∨ x.isNaN = true ∧ y.isNaN = true := by
  cases finite : x.isFinite <;> cases finite' : y.isFinite
  · exact text_not_finite_injective finite finite' same
  · obtain ⟨numeral, scanned, -⟩ := (text_number_of_isFinite finite').1
    rw [← same, scan?_text_of_not_finite finite] at scanned
    cases scanned
  · obtain ⟨numeral, scanned, -⟩ := (text_number_of_isFinite finite).1
    rw [same, scan?_text_of_not_finite finite'] at scanned
    cases scanned
  · have reads := (text_number_of_isFinite finite').1
    rw [← same] at reads
    exact .inl ((text_number_of_isFinite finite).1.numEq reads)

/--
The text of a finite number reads back as the number, in exponent notation for what needs an exponent and in positional
notation otherwise; and two numbers have one text exactly if they are equal or neither is a number.
-/
theorem text_number_reads_back :
    (∀ x : Double, x.isFinite = true →
      ReadsAs (number x).text.toList x ∧
      (Exponential (number x).text.toList ↔ NeedsExponent x) ∧
      (Positional (number x).text.toList ↔ ¬ NeedsExponent x)) ∧
    ∀ x y : Double, (number x).text = (number y).text ↔ x.numEq y = true ∨ x.isNaN = true ∧ y.isNaN = true := by
  refine ⟨?_, fun x y => ⟨text_number_injective, text_number_congr⟩⟩
  intro x finite
  obtain ⟨reads, exponential, positional⟩ := text_number_of_isFinite finite
  refine ⟨reads, ⟨?_, exponential⟩, ⟨?_, positional⟩⟩
  · intro written
    by_contra within
    exact (positional within).not_exponential written
  · intro written needs
    exact written.not_exponential (exponential needs)

/-- Below a millionth. -/
theorem text_number_reads_back_small : (Decimal.toDouble true ⟨15, -8⟩).isFinite = true ∧
    ReadsAs (number (Decimal.toDouble true ⟨15, -8⟩)).text.toList (Decimal.toDouble true ⟨15, -8⟩) ∧
    Exponential (number (Decimal.toDouble true ⟨15, -8⟩)).text.toList := by
  have finite : (Decimal.toDouble true ⟨15, -8⟩).isFinite = true := by decide +kernel
  have needs : NeedsExponent (Decimal.toDouble true ⟨15, -8⟩) := ⟨by decide +kernel, .inr (by decide +kernel)⟩
  obtain ⟨reads, exponential, -⟩ := text_number_reads_back.1 _ finite
  exact ⟨finite, reads, exponential.mpr needs⟩

end Value

end RecordCheck
