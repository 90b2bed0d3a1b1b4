import RecordCheck.Checker.Check
import RecordCheck.Proofs.Checker.Tree
import RecordCheck.Proofs.Record

/-!
# Blueprints of checkers

A `Blueprint` says how a checker is put together from the constructors of the library, and `Blueprint.build` does so.
What is shown of a blueprint from its parts holds of every blueprint (`Blueprint.tree_induction`). The shapes in a
checker that is built declare each name once (`Blueprint.wellFormed_build`).
-/

namespace RecordCheck

variable {ν : Type}

/-- How a checker is put together. -/
inductive Blueprint (ν : Type) where
  | any
  | array
  /-- a test of the type, such as `bool`, `func`, `number`, `object` and `string` -/
  | typed (kind : Kind) (tag : TypeTag)
  | arrayOf (element : Blueprint ν)
  | objectOf (element : Blueprint ν)
  | oneOf (allowed : List Value)
  | oneOfType (alternatives : List (Blueprint ν))
  | shape (fields : List (String × Blueprint ν))
  | instanceOf (cls : Class)
  | custom (predicate : Predicate ν)
  | required (inner : Blueprint ν)

namespace Blueprint

mutual

/-- The checker that a blueprint describes. -/
def build : Blueprint ν → Checker ν
  | any => .any
  | array => .array
  | typed kind tag => .new kind (.typed tag)
  | arrayOf element => .arrayOf element.build
  | objectOf element => .objectOf element.build
  | oneOf allowed => .oneOf allowed
  | oneOfType alternatives => .oneOfType (buildAll alternatives)
  | shape fields => .shape (buildFields fields)
  | instanceOf cls => .instanceOf cls
  | custom predicate => .custom predicate
  | required inner => inner.build.required

/-- The checkers of the alternatives of a union. -/
def buildAll : List (Blueprint ν) → List (Checker ν)
  | [] => []
  | blueprint :: rest => blueprint.build :: buildAll rest

/-- The checkers of the declared fields of a shape. -/
def buildFields : List (String × Blueprint ν) → List (String × Checker ν)
  | [] => []
  | (name, blueprint) :: rest => (name, blueprint.build) :: buildFields rest

end

/-- Whether the blueprint asks for presence at its top. -/
def isRequired : Blueprint ν → Bool
  | required _ => true
  | _ => false

/-- The blueprints that a blueprint holds. -/
def parts : Blueprint ν → List (Blueprint ν)
  | arrayOf element | objectOf element => [element]
  | oneOfType alternatives => alternatives
  | shape fields => fields.map Prod.snd
  | required inner => [inner]
  | _ => []

theorem mem_parts_shape {fields : List (String × Blueprint ν)} {name : String} {declared : Blueprint ν}
    (given : lastGiven? name fields = some declared) : declared ∈ (shape fields).parts :=
  List.mem_map.mpr ⟨(name, declared), mem_of_lastGiven? given, rfl⟩

theorem sizeOf_lt_of_mem_parts {blueprint part : Blueprint ν} (member : part ∈ blueprint.parts) :
    sizeOf part < sizeOf blueprint := by
  cases blueprint with
  | arrayOf element | objectOf element | required element =>
      obtain rfl := List.mem_singleton.mp member
      simp
  | oneOfType alternatives =>
      have smaller : sizeOf part < sizeOf alternatives := List.sizeOf_lt_of_mem member
      simp only [oneOfType.sizeOf_spec]
      omega
  | shape fields =>
      obtain ⟨⟨name, declared⟩, inside, rfl⟩ := List.mem_map.mp member
      have smaller := List.sizeOf_lt_of_mem inside
      simp only [shape.sizeOf_spec, Prod.mk.sizeOf_spec] at smaller ⊢
      omega
  | _ => cases member

/-- What the parts of a blueprint hand on to it holds of every blueprint. -/
@[elab_as_elim]
theorem tree_induction {motive : Blueprint ν → Prop}
    (step : ∀ blueprint, (∀ part ∈ blueprint.parts, motive part) → motive blueprint) (blueprint : Blueprint ν) :
    motive blueprint :=
  step blueprint fun part _ => tree_induction step part
termination_by sizeOf blueprint
decreasing_by exact sizeOf_lt_of_mem_parts ‹part ∈ blueprint.parts›

theorem buildAll_eq_map (blueprints : List (Blueprint ν)) : buildAll blueprints = blueprints.map build := by
  induction blueprints with
  | nil => rfl
  | cons blueprint rest ih => rw [buildAll, ih, List.map_cons]

theorem buildFields_eq_map (fields : List (String × Blueprint ν)) :
    buildFields fields = fields.map fun field => (field.1, field.2.build) := by
  induction fields with
  | nil => rfl
  | cons field rest ih => rw [buildFields, ih, List.map_cons]

theorem isRequired_build (blueprint : Blueprint ν) : blueprint.build.isRequired = blueprint.isRequired := by
  cases blueprint with
  | required inner =>
      rw [build]
      cases inner.build with
      | mk => rfl
  | _ => rfl

theorem check_required (checker : Checker ν) (value : Value) (field : String) :
    checker.required.check value field = checker.check value field := by
  cases checker with
  | mk => rfl

/-- Collecting keeps one checker for each name. -/
theorem wellFormed_build (blueprint : Blueprint ν) : blueprint.build.WellFormed := by
  induction blueprint using tree_induction with
  | step blueprint ih =>
    cases blueprint with
    | arrayOf element | objectOf element =>
        refine .mk List.nodup_nil ?_
        intro part member
        obtain rfl := List.mem_singleton.mp member
        exact ih element (List.mem_singleton_self element)
    | oneOfType alternatives =>
        refine .mk List.nodup_nil ?_
        intro part member
        simp only [Rule.parts, buildAll_eq_map] at member
        obtain ⟨alternative, inside, rfl⟩ := List.mem_map.mp member
        exact ih alternative inside
    | shape fields =>
        refine .mk (nodup_keysOf_collect _) ?_
        intro part member
        obtain ⟨⟨name, checker⟩, inside, rfl⟩ := List.mem_map.mp member
        have given := mem_collect_iff.mp inside
        rw [buildFields_eq_map, lastGiven?_map] at given
        obtain ⟨declared, found, rfl⟩ := Option.map_eq_some_iff.mp given
        exact ih declared (mem_parts_shape found)
    | required inner =>
        exact Checker.every_required_iff.mpr (ih inner (List.mem_singleton_self inner))
    | _ => exact .mk List.nodup_nil fun part member => nomatch member

end Blueprint

end RecordCheck
