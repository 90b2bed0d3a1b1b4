import Mathlib.Logic.Relation
import RecordCheck.Value

/-!
# Descent of classes

A class descends from those that parent steps lead to from it. The subclass test decides this relation
(`Class.isSubclassOf_iff`), and a value is an instance of the classes from which its own class descends
(`Value.isInstanceOf_iff`).
-/

namespace RecordCheck

namespace Class

/-- Parent steps, possibly none, lead from the first class to the second. -/
def DescendsFrom : Class → Class → Prop :=
  Relation.ReflTransGen fun cls parent => cls.parent? = some parent

theorem isSubclassOf_iff {cls ancestor : Class} :
    cls.isSubclassOf ancestor = true ↔ cls.DescendsFrom ancestor := by
  unfold DescendsFrom
  induction cls with
  | object =>
      rw [Relation.ReflTransGen.cases_head_iff]
      simp [isSubclassOf, parent?]
  | derived serial name parent ih =>
      rw [Relation.ReflTransGen.cases_head_iff]
      simp [isSubclassOf, parent?, ih]

end Class

theorem Value.isInstanceOf_iff {value : Value} {cls : Class} :
    value.isInstanceOf cls = true ↔ ∃ own, value.class? = some own ∧ own.DescendsFrom cls := by
  unfold isInstanceOf
  cases value.class? with
  | none => simp
  | some own => simp [Class.isSubclassOf_iff]

end RecordCheck
