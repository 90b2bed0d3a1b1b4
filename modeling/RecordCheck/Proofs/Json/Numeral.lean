import RecordCheck.Json.Numeral
import RecordCheck.Proofs.Double.Decimal

/-!
# Numerals as exact decimals

`Numeral.decimal` is the number that a numeral spells, of which `Numeral.value?` gives a double close to it. A text made of
digits, a point before the later ones and an exponent with its sign scans as the numeral with just these digits
(`Numeral.scan?_positional`, `Numeral.scan?_exponential`).
-/

namespace RecordCheck.Json

theorem isDigit_eq (c : Char) : isDigit c = c.isDigit := by
  rw [Bool.eq_iff_iff, isDigit, Char.isDigit]
  simp only [decide_eq_true_eq, Bool.and_eq_true]
  rfl

theorem digits_append {cs rest : List Char} (isDigits : ∀ c ∈ cs, c.isDigit = true)
    (next : ∀ c ∈ rest.head?, c.isDigit = false) : digits (cs ++ rest) = (cs.map digitValue, rest) := by
  have here : ∀ c ∈ cs, isDigit c = true := by
    intro c member
    rw [isDigit_eq]
    exact isDigits c member
  have after : rest.takeWhile isDigit = [] ∧ rest.dropWhile isDigit = rest := by
    cases rest with
    | nil => exact ⟨rfl, rfl⟩
    | cons c rest =>
        have stop : isDigit c = false := by
          rw [isDigit_eq]
          exact next c rfl
        simp only [List.takeWhile_cons, List.dropWhile_cons, stop, Bool.false_eq_true, if_false, and_self]
  rw [digits, List.takeWhile_append_of_pos here, List.dropWhile_append_of_pos here, after.1, after.2, List.append_nil]

theorem digits_all {cs : List Char} (isDigits : ∀ c ∈ cs, c.isDigit = true) : digits cs = (cs.map digitValue, []) := by
  have found := @digits_append cs [] isDigits (by simp)
  rwa [List.append_nil] at found

theorem eq_zero_of_digitValue {c : Char} (isDigit : c.isDigit = true) (zero : digitValue c = 0) : c = '0' := by
  apply Char.toNat_inj.mp
  have lower : '0'.toNat ≤ c.toNat := by
    rw [Char.isDigit, Bool.and_eq_true] at isDigit
    exact of_decide_eq_true isDigit.1
  rw [digitValue] at zero
  omega

namespace Numeral

theorem ofDigits_map (cs : List Char) : ofDigits (cs.map digitValue) = Nat.ofDigitChars 10 cs 0 := by
  simp only [ofDigits, Nat.ofDigitChars_eq_foldl, List.foldl_map, Nat.mul_comm 10]
  rfl

/-- The exact value that a numeral spells, apart from its sign. -/
def decimal (numeral : Numeral) : Decimal where
  coefficient := ofDigits (numeral.whole ++ numeral.fraction)
  exponent :=
    (if numeral.exponentNegative then -(ofDigits numeral.exponent : ℤ) else ofDigits numeral.exponent) -
      numeral.fraction.length

/-- Digits with a point before them, if there are any. -/
def pointed : List Char → List Char
  | [] => []
  | c :: cs => '.' :: c :: cs

/-- The sign of a number; without one it is positive. -/
def sign (negative : Bool) : List Char := if negative then ['-'] else []

theorem pointed_of_ne_nil {cs : List Char} (nonempty : cs ≠ []) : pointed cs = '.' :: cs := by
  cases cs with
  | nil => exact absurd rfl nonempty
  | cons => rfl

theorem value_positional (negative : Bool) (whole fraction : List Char) :
    (⟨negative, whole.map digitValue, fraction.map digitValue, false, []⟩ : Numeral).decimal.value =
      Nat.ofDigitChars 10 (whole ++ fraction) 0 * (10 : ℚ) ^ (-(fraction.length : ℤ)) := by
  simp only [Decimal.value, decimal, ← List.map_append, ofDigits_map, List.length_map, Bool.false_eq_true, if_false]
  rw [show ((ofDigits [] : ℕ) : ℤ) = 0 from rfl, Int.zero_sub]

theorem value_exponential (negative down : Bool) (whole fraction exponent : List Char) :
    (⟨negative, whole.map digitValue, fraction.map digitValue, down, exponent.map digitValue⟩ : Numeral).decimal.value =
      Nat.ofDigitChars 10 (whole ++ fraction) 0 * (10 : ℚ) ^ ((if down then -(Nat.ofDigitChars 10 exponent 0 : ℤ)
        else Nat.ofDigitChars 10 exponent 0) - fraction.length) := by
  simp only [Decimal.value, decimal, ← List.map_append, ofDigits_map, List.length_map]

/-- Digits that start with a zero only if it stands alone. -/
structure Whole (cs : List Char) : Prop where
  nonempty : cs ≠ []
  digits : ∀ c ∈ cs, c.isDigit = true
  lead : cs = ['0'] ∨ cs.head? ≠ some '0'

theorem fraction?_pointed {fraction tail : List Char} (isDigits : ∀ c ∈ fraction, c.isDigit = true)
    (next : ∀ c ∈ tail.head?, c.isDigit = false ∧ c ≠ '.') :
    fraction? (pointed fraction ++ tail) = some (fraction.map digitValue, tail) := by
  cases fraction with
  | nil =>
      cases tail with
      | nil => rfl
      | cons c tail =>
          have point : c ≠ '.' := (next c rfl).2
          simp only [pointed, List.nil_append, List.map_nil]
          unfold fraction?
          split
          · rename_i same
            cases same
            exact absurd rfl point
          · rfl
  | cons c cs =>
      have found := digits_append isDigits fun c member => (next c member).1
      simp only [pointed, List.cons_append] at found ⊢
      simp only [fraction?, found, List.map_cons]

theorem exponent?_signed {down : Bool} {exponent : List Char} (nonempty : exponent ≠ [])
    (isDigits : ∀ c ∈ exponent, c.isDigit = true) :
    exponent? ('e' :: (if down then '-' else '+') :: exponent) = some (down, exponent.map digitValue, []) := by
  have found := digits_all isDigits
  have signed : exponentSign ((if down then '-' else '+') :: exponent) = (down, exponent) := by
    cases down <;> rfl
  cases exponent with
  | nil => exact absurd rfl nonempty
  | cons c cs =>
      simp only [exponent?, true_or, if_true, signed, found, List.map_cons]

/-- A whole part is not refused for a zero at its start. -/
theorem Whole.not_padded {cs : List Char} (isWhole : Whole cs) {second : Nat} {later : List Nat} :
    cs.map digitValue ≠ 0 :: second :: later := by
  intro padded
  obtain ⟨c, rest, rfl⟩ := List.exists_cons_of_ne_nil isWhole.nonempty
  simp only [List.map_cons, List.cons.injEq] at padded
  obtain ⟨zero, more⟩ := padded
  cases isWhole.lead with
  | inl single =>
      cases single
      cases more
  | inr nonzero =>
      apply nonzero
      rw [List.head?_cons, eq_zero_of_digitValue (isWhole.digits c List.mem_cons_self) zero]

/-- The numeral of a whole part, a fraction and what the exponent reads as. -/
theorem unsigned?_written (negative : Bool) {down : Bool} {whole fraction : List Char} (tail : List Char)
    {exponent : List Nat} (isWhole : Whole whole) (isDigits : ∀ c ∈ fraction, c.isDigit = true)
    (next : ∀ c ∈ tail.head?, c.isDigit = false ∧ c ≠ '.') (scanned : exponent? tail = some (down, exponent, [])) :
    unsigned? negative (whole ++ pointed fraction ++ tail) =
      some (⟨negative, whole.map digitValue, fraction.map digitValue, down, exponent⟩, []) := by
  have point : ∀ c ∈ (pointed fraction ++ tail).head?, c.isDigit = false := by
    intro c member
    cases fraction with
    | nil => exact (next c member).1
    | cons =>
        cases member
        rfl
  have found := digits_append isWhole.digits point
  rw [← List.append_assoc] at found
  unfold unsigned?
  rw [found]
  split
  · rename_i none
    simp only [Prod.mk.injEq, List.map_eq_nil_iff] at none
    exact absurd none.1 isWhole.nonempty
  · rename_i padded
    simp only [Prod.mk.injEq] at padded
    exact absurd padded.1 isWhole.not_padded
  · rename_i same
    cases same
    rw [fraction?_pointed isDigits next]
    simp only [scanned]

theorem scan?_sign (negative : Bool) {cs : List Char} (unsigned : cs.head? ≠ some '-') :
    scan? (sign negative ++ cs) = unsigned? negative cs := by
  cases negative with
  | true => rfl
  | false =>
      simp only [sign, Bool.false_eq_true, if_false, List.nil_append]
      unfold scan?
      split
      · exact absurd rfl unsigned
      · rfl

theorem Whole.unsigned {cs : List Char} (isWhole : Whole cs) (rest : List Char) : (cs ++ rest).head? ≠ some '-' := by
  obtain ⟨c, later, rfl⟩ := List.exists_cons_of_ne_nil isWhole.nonempty
  intro minus
  cases minus
  cases isWhole.digits '-' List.mem_cons_self

/-- Digits and a point scan as a numeral. -/
theorem scan?_positional (negative : Bool) {whole fraction : List Char} (isWhole : Whole whole)
    (isDigits : ∀ c ∈ fraction, c.isDigit = true) :
    scan? (sign negative ++ (whole ++ pointed fraction)) =
      some (⟨negative, whole.map digitValue, fraction.map digitValue, false, []⟩, []) := by
  have scanned := unsigned?_written negative [] isWhole isDigits (by simp) rfl
  rw [List.append_nil] at scanned
  rw [scan?_sign negative (isWhole.unsigned _), scanned]

/-- Digits, a point and an exponent with a sign scan as a numeral. -/
theorem scan?_exponential (negative down : Bool) {whole fraction exponent : List Char} (isWhole : Whole whole)
    (isDigits : ∀ c ∈ fraction, c.isDigit = true) (nonempty : exponent ≠ [])
    (isExponent : ∀ c ∈ exponent, c.isDigit = true) :
    scan? (sign negative ++ (whole ++ pointed fraction ++ 'e' :: (if down then '-' else '+') :: exponent)) =
      some (⟨negative, whole.map digitValue, fraction.map digitValue, down, exponent.map digitValue⟩, []) := by
  have letter : ∀ c ∈ ('e' :: (if down then '-' else '+') :: exponent).head?, c.isDigit = false ∧ c ≠ '.' := by
    intro c member
    cases member
    decide
  have start := isWhole.unsigned (pointed fraction ++ 'e' :: (if down then '-' else '+') :: exponent)
  rw [← List.append_assoc] at start
  rw [scan?_sign negative start]
  exact unsigned?_written negative _ isWhole isDigits letter (exponent?_signed nonempty isExponent)

end Numeral

end RecordCheck.Json
