import RecordCheck.Json.Numeral
import RecordCheck.Proofs.Double.Integer

/-!
# Numbers of documents

A document holds integers of 64 bits and finite doubles (`Number.Held`). `Number.StandsFor` says which double belongs to
a number without computing it. Each number that is held stands for the double that it is converted to
(`Number.standsFor_toDouble`), and for no other one (`Number.StandsFor.eq_toDouble`).
-/

namespace RecordCheck.Json.Number

/-- Documents hold integers of 64 bits, with a sign or without one, and finite doubles. -/
def Held : Number → Prop
  | integer n => -2 ^ 63 ≤ n ∧ n < 2 ^ 64
  | double x => x.isFinite = true

/--
The double that a number stands for: of an integer it is the nearest one, of two equally near ones that with the even
significand, and it has a minus just if the integer has one; a double stands for itself.
-/
inductive StandsFor : Number → Double → Prop where
  | integer {n : ℤ} {x : Double} (nearest : x.NearestTo n) (sign : x.negative = true ↔ n < 0) : StandsFor (integer n) x
  | double (x : Double) : StandsFor (double x) x

variable {n : Number} {x : Double}

theorem natAbs_le_of_held {m : ℤ} (held : (integer m).Held) : m.natAbs ≤ 2 ^ 64 := by
  obtain ⟨lower, upper⟩ := held
  omega

/-- A number stands for the double that it is converted to. -/
theorem standsFor_toDouble (held : n.Held) : n.StandsFor n.toDouble := by
  cases n with
  | integer m => exact .integer (Double.nearestTo_ofInt (natAbs_le_of_held held)) decide_eq_true_iff
  | double x => exact .double x

/-- It stands for no other one. -/
theorem StandsFor.eq_toDouble (stands : n.StandsFor x) (held : n.Held) : x = n.toDouble := by
  cases stands with
  | integer nearest sign => exact nearest.eq_ofInt sign (natAbs_le_of_held held)
  | double => rfl

theorem isFinite_toDouble (held : n.Held) : n.toDouble.isFinite = true := by
  cases n with
  | integer m => exact (Double.nearestTo_ofInt (natAbs_le_of_held held)).finite
  | double x => exact held

end RecordCheck.Json.Number
