import RecordCheck.Json.Value
import RecordCheck.Proofs.Json.Numeral

/-!
# Integers in documents

The text of an integer of 64 bits, signed or not, is a document, and it is the number with just this integer
(`Json.parse?_repr`).
-/

namespace RecordCheck.Json

namespace Numeral

/-- Digits that are read one after the other make up at least what was read before them. -/
theorem le_foldl_digits (significand : Nat) (ds : List Nat) : significand ≤ ds.foldl (fun n d => n * 10 + d) significand := by
  induction ds generalizing significand with
  | nil => exact Nat.le_refl _
  | cons d ds ih =>
      have later := ih (significand * 10 + d)
      rw [List.foldl_cons]
      omega

/-- Digits of a number that fits 64 bits fill the significand without a rest. -/
theorem fillWhole_of_lt {significand : Nat} {ds : List Nat}
    (fits : ds.foldl (fun n d => n * 10 + d) significand < significandLimit) :
    fillWhole significand ds = (ds.foldl (fun n d => n * 10 + d) significand, 0) := by
  induction ds generalizing significand with
  | nil => rfl
  | cons d ds ih =>
      have next : significand * 10 + d < significandLimit := lt_of_le_of_lt (le_foldl_digits _ ds) fits
      rw [fillWhole, if_pos next]
      exact ih fits

/-- The numeral of an integer that fits 64 bits has its value. -/
theorem value?_of_digits {n : ℤ} (lower : -2 ^ 63 ≤ n) (upper : n < 2 ^ 64) :
    (⟨decide (n < 0), (Nat.toDigits 10 n.natAbs).map digitValue, [], false, []⟩ : Numeral).value? =
      some (.integer n) := by
  have value : ofDigits ((Nat.toDigits 10 n.natAbs).map digitValue) = n.natAbs := by
    rw [ofDigits_map, Nat.ofDigitChars_ten_toDigits]
  have fits : n.natAbs < significandLimit := by
    rw [significandLimit, Nat.pow_eq]
    omega
  have filled : fillWhole 0 ((Nat.toDigits 10 n.natAbs).map digitValue) = (n.natAbs, 0) := by
    rw [← value] at fits
    rw [fillWhole_of_lt fits]
    exact congrArg (·, 0) value
  rw [value?, filled]
  by_cases below : n < 0
  · have range : 0 < n.natAbs ∧ n.natAbs ≤ Nat.pow 2 63 := by
      rw [Nat.pow_eq]
      omega
    simp only [and_self, if_true, decide_eq_true below, range]
    rw [show -(n.natAbs : ℤ) = n by omega]
  · simp only [and_self, if_true, decide_eq_false below, Bool.false_eq_true, if_false]
    rw [show (n.natAbs : ℤ) = n by omega]

end Numeral

open Numeral (sign)

/-- The text of an integer is its sign with the digits of its size. -/
theorem toList_repr (n : ℤ) : n.repr.toList = sign (decide (n < 0)) ++ Nat.toDigits 10 n.natAbs := by
  cases n with
  | ofNat m => exact Nat.toList_repr
  | negSucc m =>
      have below : decide (Int.negSucc m < 0) = true := decide_eq_true (Int.negSucc_lt_zero m)
      rw [Int.repr, String.toList_append, Nat.toList_repr, below]
      rfl

theorem Numeral.whole_toDigits (n : Nat) : Whole (Nat.toDigits 10 n) := by
  refine ⟨Nat.toDigits_ne_nil, fun c => Nat.isDigit_of_mem_toDigits (by decide) (by decide), ?_⟩
  by_cases positive : 0 < n
  · exact .inr (Decimal.head?_toDigits positive)
  · obtain rfl : n = 0 := by omega
    exact .inl rfl

/-- A text that starts like a number and is one has no other tokens. -/
theorem Token.ofChars_number {cs : List Char} {numeral : Numeral} {n : Number}
    (start : ∀ c ∈ cs.head?, c.isDigit = true ∨ c = '-') (scanned : Numeral.scan? cs = some (numeral, []))
    (value : numeral.value? = some n) : ofChars cs = [.number n] := by
  cases cs with
  | nil => cases scanned
  | cons c rest =>
      have first : isDigit c ∨ c = '-' := by
        rw [isDigit_eq]
        exact start c rfl
      have other {d : Char} (differs : isDigit d = false ∧ d ≠ '-') : c ≠ d := by
        rintro rfl
        rcases first with digit | minus
        · exact absurd (differs.1.symm.trans digit) nofun
        · exact differs.2 minus
      have space : isSpace c = false := by
        simp [isSpace, other (d := ' ') (by decide), other (d := '\n') (by decide), other (d := '\t') (by decide),
          other (d := '\r') (by decide)]
      have noPunctuation : punctuation? c = none := by
        simp [punctuation?, other (d := '[') (by decide), other (d := ']') (by decide), other (d := '\x7b') (by decide),
          other (d := '\x7d') (by decide), other (d := ':') (by decide), other (d := ',') (by decide)]
      have read : number? (c :: rest) = some (.number n, []) := by
        rw [number?, scanned]
        simp only [value, Option.map_some]
      have lexeme : lexeme? (c :: rest) = some (.number n, []) := by
        rw [lexeme?, noPunctuation]
        simp only
        rw [if_neg (other (by decide)), if_pos first, read]
      rw [ofChars, space]
      simp only [Bool.false_eq_true, if_false]
      split
      · rename_i none
        cases lexeme.symm.trans none
      · rename_i found
        cases lexeme.symm.trans found
        rw [ofChars]

theorem parse?_repr {n : ℤ} (lower : -2 ^ 63 ≤ n) (upper : n < 2 ^ 64) :
    parse? n.repr = some (.number (.integer n)) := by
  have isWhole := Numeral.whole_toDigits n.natAbs
  have scanned := @Numeral.scan?_positional (decide (n < 0)) _ [] isWhole (List.forall_mem_nil _)
  rw [Numeral.pointed, List.append_nil, ← toList_repr] at scanned
  have start : ∀ c ∈ n.repr.toList.head?, c.isDigit = true ∨ c = '-' := by
    intro c member
    rw [toList_repr] at member
    cases negative : decide (n < 0) with
    | true =>
        rw [negative] at member
        exact .inr (Option.some.inj member).symm
    | false =>
        rw [negative] at member
        exact .inl (isWhole.digits c (List.mem_of_mem_head? member))
  have tokens : Token.ofText n.repr = [.number (.integer n)] :=
    Token.ofChars_number start scanned (Numeral.value?_of_digits lower upper)
  rw [parse?, tokens]
  rfl

end RecordCheck.Json
