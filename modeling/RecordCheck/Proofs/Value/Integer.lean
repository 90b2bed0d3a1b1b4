import RecordCheck.Proofs.Checker.Acceptance
import RecordCheck.Proofs.Double.Integer
import RecordCheck.Proofs.Json.Integer

/-!
# Integers as values

An integer becomes the double nearest to it, whether it is converted itself or stands in a document. Integers of up to 53
bits become doubles with their own values, so these values are equal just if the integers are
(`Value.strictEq_ofInt_iff`), and checkers of allowed values tell them apart (`Checker.check_oneOf_ofInt_iff`).
-/

namespace RecordCheck

namespace Value

/-- Integers that are doubles are strictly equal as values just if they are the same. -/
theorem strictEq_ofInt_iff {a b : ℤ} (small : a.natAbs ≤ 2 ^ 53) (small' : b.natAbs ≤ 2 ^ 53) :
    (ofInt a).strictEq (ofInt b) = true ↔ a = b := by
  have finite {n : ℤ} (bound : n.natAbs ≤ 2 ^ 53) : (Double.ofInt n).isFinite = true :=
    (Double.nearestTo_ofInt (bound.trans (by decide))).finite
  rw [ofInt, ofInt, strictEq, Double.numEq_iff_toRat_eq (finite small) (finite small'),
    Double.toRat_ofInt_of_le small, Double.toRat_ofInt_of_le small', Int.cast_inj]

example : (ofInt 9007199254740993).strictEq (ofInt 9007199254740992) = true := by decide +kernel

/-- The text of an integer of 64 bits holds the value of the integer. -/
theorem ofText?_repr {n : ℤ} (lower : -2 ^ 63 ≤ n) (upper : n < 2 ^ 64) : ofText? n.repr = some (ofInt n) := by
  rw [ofText?, Json.parse?_repr lower upper]
  rfl

end Value

/-- Allowed integers that are doubles accept just themselves. -/
theorem Checker.check_oneOf_ofInt_iff {ν : Type} {allowed : List ℤ} {a : ℤ} {field : String}
    (small : ∀ n ∈ allowed, n.natAbs ≤ 2 ^ 53) (small' : a.natAbs ≤ 2 ^ 53) :
    ((Checker.oneOf (allowed.map Value.ofInt) : Checker ν).check (Value.ofInt a) field).result = .ok () ↔
      a ∈ allowed := by
  refine (Rule.check_ok_iff_admits rfl rfl).trans (List.any_eq_true.trans ?_)
  constructor
  · rintro ⟨candidate, inside, equal⟩
    obtain ⟨n, member, rfl⟩ := List.mem_map.mp inside
    obtain rfl := (Value.strictEq_ofInt_iff (small n member) small').mp equal
    exact member
  · intro member
    exact ⟨Value.ofInt a, List.mem_map_of_mem member, (Value.strictEq_ofInt_iff small' small').mpr rfl⟩

namespace Value

theorem natAbs_int32_le (a : Int32) : a.toInt.natAbs ≤ 2 ^ 53 := by
  have lower := a.le_toInt
  have upper := a.toInt_lt
  omega

theorem natAbs_uint32_le (a : UInt32) : (a.toNat : ℤ).natAbs ≤ 2 ^ 53 := by
  have upper := a.toNat_lt
  omega

/--
An integer of 64 bits becomes the nearest double, of two equally near ones the one with the even significand. Up to
`2 ^ 53` that is the integer itself, and greater integers have no smaller doubles. The number of a document and the text of
the integer give the same double. Integers of 32 bits, signed or not, keep their values: they are strictly equal just if
they are the same, and a choice of them accepts those that it lists.
-/
theorem integers_nearest :
    (∀ n : Int64, ∃ x, ofInt n.toInt = number x ∧ x.NearestTo n.toInt ∧
      (n.toInt.natAbs ≤ 2 ^ 53 → x.toRat = n.toInt) ∧
      ofJson (.number (.integer n.toInt)) = number x ∧ ofText? n.toInt.repr = some (number x)) ∧
    (∀ a b : Int64, a ≤ b → ∃ x y, ofInt a.toInt = number x ∧ ofInt b.toInt = number y ∧ x.toRat ≤ y.toRat) ∧
    (∀ a b : Int32, (∃ x, ofInt a.toInt = number x ∧ x.toRat = a.toInt) ∧
      ((ofInt a.toInt).strictEq (ofInt b.toInt) = true ↔ a = b)) ∧
    (∀ a b : UInt32, (∃ x, ofInt a.toNat = number x ∧ x.toRat = a.toNat) ∧
      ((ofInt a.toNat).strictEq (ofInt b.toNat) = true ↔ a = b)) ∧
    ∀ (ν : Type) (allowed : List Int32) (a : Int32) (field : String),
      ((Checker.oneOf (allowed.map fun n => ofInt n.toInt) : Checker ν).check (ofInt a.toInt) field).result = .ok () ↔
        a ∈ allowed := by
  refine ⟨?_, ?_, ?_, ?_, ?_⟩
  · intro n
    have lower := n.le_toInt
    have upper := n.toInt_lt
    exact ⟨Double.ofInt n.toInt, rfl, Double.nearestTo_ofInt (by omega), Double.toRat_ofInt_of_le, rfl,
      ofText?_repr lower (by omega)⟩
  · intro a b le
    exact ⟨Double.ofInt a.toInt, Double.ofInt b.toInt, rfl, rfl, Double.toRat_ofInt_le (Int64.le_iff_toInt_le.mp le)⟩
  · intro a b
    refine ⟨⟨Double.ofInt a.toInt, rfl, Double.toRat_ofInt_of_le (natAbs_int32_le a)⟩, ?_⟩
    rw [strictEq_ofInt_iff (natAbs_int32_le a) (natAbs_int32_le b), Int32.toInt_inj]
  · intro a b
    refine ⟨⟨Double.ofInt a.toNat, rfl, Double.toRat_ofInt_of_le (natAbs_uint32_le a)⟩, ?_⟩
    rw [strictEq_ofInt_iff (natAbs_uint32_le a) (natAbs_uint32_le b), Int.ofNat_inj, UInt32.toNat_inj]
  · intro ν allowed a field
    have choice := @Checker.check_oneOf_ofInt_iff ν (allowed.map Int32.toInt) a.toInt field
      (List.forall_mem_map.mpr fun n _ => natAbs_int32_le n) (natAbs_int32_le a)
    rw [List.map_map] at choice
    refine choice.trans ?_
    rw [List.mem_map]
    simp only [Int32.toInt_inj, exists_eq_right]

/-- The lower bound of the integers that are all doubles, and an integer in the middle between two doubles. -/
theorem integers_nearest_halfway :
    (Int64.toInt (-9007199254740992)).natAbs ≤ 2 ^ 53 ∧
      (∃ x, ofInt (Int64.toInt (-9007199254740992)) = number x ∧ x.toRat = Int64.toInt (-9007199254740992)) ∧
      Int64.minValue ≤ 9007199254740993 ∧
      ∃ x y, ofInt Int64.minValue.toInt = number x ∧ ofInt (Int64.toInt 9007199254740993) = number y ∧
        x.toRat ≤ y.toRat := by
  have small : (Int64.toInt (-9007199254740992)).natAbs ≤ 2 ^ 53 := by decide
  have le : Int64.minValue ≤ 9007199254740993 := by decide
  obtain ⟨x, held, -, same, -⟩ := integers_nearest.1 (-9007199254740992)
  exact ⟨small, ⟨x, held, same small⟩, le, integers_nearest.2.1 _ _ le⟩

end Value

end RecordCheck
