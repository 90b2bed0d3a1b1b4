import RecordCheck.Checker

/-!
# Checkers as trees

The checkers that a rule holds are its `parts`. What is shown of a checker from its parts holds of every checker
(`Checker.tree_induction`), and `Checker.Every` says of a whole tree what its rules have in common.
-/

namespace RecordCheck

variable {ν : Type}

namespace Rule

/-- The checkers that a rule holds. -/
def parts : Rule ν → List (Checker ν)
  | arrayOf element | objectOf element => [element]
  | oneOfType alternatives => alternatives
  | shape fields => fields.map Prod.snd
  | _ => []

theorem sizeOf_lt_of_mem_parts {rule : Rule ν} {part : Checker ν} (member : part ∈ rule.parts) :
    sizeOf part < sizeOf rule := by
  cases rule with
  | arrayOf element | objectOf element =>
      obtain rfl := List.mem_singleton.mp member
      simp
  | oneOfType alternatives =>
      have smaller : sizeOf part < sizeOf alternatives := List.sizeOf_lt_of_mem member
      simp only [oneOfType.sizeOf_spec]
      omega
  | shape fields =>
      obtain ⟨⟨name, checker⟩, inside, rfl⟩ := List.mem_map.mp member
      have smaller := List.sizeOf_lt_of_mem inside
      simp only [shape.sizeOf_spec, Prod.mk.sizeOf_spec] at smaller ⊢
      omega
  | _ => cases member

/-- The fields that a shape declares; other rules declare none. -/
def fields : Rule ν → List (String × Checker ν)
  | shape fields => fields
  | _ => []

/-- Whether the rule is a predicate of the caller. -/
def isCustom : Rule ν → Bool
  | custom _ => true
  | _ => false

/-- Whether the rule asks the same of all fields of an object. -/
def isObjectOf : Rule ν → Bool
  | objectOf _ => true
  | _ => false

end Rule

namespace Checker

/-- What the parts of a rule hand on to its checker holds of every checker. -/
@[elab_as_elim]
theorem tree_induction {motive : Checker ν → Prop}
    (step : ∀ kind isRequired rule, (∀ part ∈ rule.parts, motive part) → motive (mk kind isRequired rule)) :
    ∀ checker, motive checker
  | mk kind isRequired rule => step kind isRequired rule fun part _ => tree_induction step part
termination_by checker => sizeOf checker
decreasing_by
  have smaller := Rule.sizeOf_lt_of_mem_parts ‹part ∈ rule.parts›
  simp only [mk.sizeOf_spec]
  omega

/-- Every rule in the tree of the checker satisfies `P`. -/
inductive Every (P : Rule ν → Prop) : Checker ν → Prop where
  | mk {kind : Kind} {isRequired : Bool} {rule : Rule ν} (here : P rule)
      (below : ∀ part ∈ rule.parts, Every P part) : Every P (mk kind isRequired rule)

theorem every_mk_iff {P : Rule ν → Prop} {kind : Kind} {isRequired : Bool} {rule : Rule ν} :
    Every P (mk kind isRequired rule) ↔ P rule ∧ ∀ part ∈ rule.parts, Every P part := by
  constructor
  · rintro ⟨here, below⟩
    exact ⟨here, below⟩
  · rintro ⟨here, below⟩
    exact .mk here below

theorem every_required_iff {P : Rule ν → Prop} {checker : Checker ν} :
    Every P checker.required ↔ Every P checker := by
  cases checker with
  | mk kind isRequired rule => rw [required, every_mk_iff, every_mk_iff]

/-- No rule in the tree is a predicate of the caller. -/
def CustomFree : Checker ν → Prop := Every fun rule => rule.isCustom = false

/-- No rule in the tree asks the same of all fields of an object. -/
def ObjectOfFree : Checker ν → Prop := Every fun rule => rule.isObjectOf = false

/-- The fields of every shape in the tree have distinct names. -/
def WellFormed : Checker ν → Prop := Every fun rule => (keysOf rule.fields).Nodup

end Checker

end RecordCheck
