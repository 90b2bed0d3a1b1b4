import Mathlib.Logic.Relation
import RecordCheck.Proofs.Checker.Acceptance
import RecordCheck.Proofs.Schema.Walk

/-!
# Loosening checkers and schemas

A blueprint is loosened by steps that ask less of a value, anywhere inside of it (`Blueprint.Looser`). What the
stricter blueprint accepts, the looser one accepts as well (`Blueprint.Looser.accepts`). A schema is loosened field by
field, or loses fields (`Schema.Loosened`); properties that pass it go on to pass (`Schema.validate_ok_of_loosened`).
-/

namespace RecordCheck

variable {ν : Type}

namespace Blueprint

/-- Whether what the blueprint accepts is an array or an object. -/
def isContainer : Blueprint ν → Bool
  | array | arrayOf _ | objectOf _ | shape _ => true
  | _ => false

/-- The second blueprint arises from the first by steps that ask less. -/
inductive Looser : Blueprint ν → Blueprint ν → Prop where
  | refl (p : Blueprint ν) : Looser p p
  | trans {p q r : Blueprint ν} (first : Looser p q) (second : Looser q r) : Looser p r
  | dropRequired (p : Blueprint ν) : Looser (required p) p
  | toAny (p : Blueprint ν) : Looser p any
  | toArray (element : Blueprint ν) : Looser (arrayOf element) array
  | toObject {p : Blueprint ν} (container : p.isContainer = true) : Looser p (typed .object .object)
  | addAllowed {few many : List Value} (more : few ⊆ many) : Looser (oneOf few) (oneOf many)
  | addAlternatives {few many : List (Blueprint ν)} (more : few ⊆ many) : Looser (oneOfType few) (oneOfType many)
  | removeKey (key : String) (fields : List (String × Blueprint ν)) :
      Looser (shape fields) (shape (fields.filter fun field => field.1 ≠ key))
  | toAncestor {cls ancestor : Class} (descent : cls.DescendsFrom ancestor) :
      Looser (instanceOf cls) (instanceOf ancestor)
  | inRequired {p q : Blueprint ν} (inner : Looser p q) : Looser (required p) (required q)
  | inArrayOf {p q : Blueprint ν} (inner : Looser p q) : Looser (arrayOf p) (arrayOf q)
  | inObjectOf {p q : Blueprint ν} (inner : Looser p q) : Looser (objectOf p) (objectOf q)
  | inOneOfType (before after : List (Blueprint ν)) {p q : Blueprint ν} (inner : Looser p q) :
      Looser (oneOfType (before ++ p :: after)) (oneOfType (before ++ q :: after))
  | inShape (before after : List (String × Blueprint ν)) (key : String) {p q : Blueprint ν} (inner : Looser p q) :
      Looser (shape (before ++ (key, p) :: after)) (shape (before ++ (key, q) :: after))

theorem accepts_none_iff {blueprint : Blueprint ν} {field : String} :
    blueprint.Accepts none field ↔ blueprint.isRequired = false := by
  rw [Accepts]

theorem typeName_of_accepts {blueprint : Blueprint ν} (container : blueprint.isContainer = true)
    {value : Value} {field : String} (accepted : blueprint.Accepts (some value) field) :
    value.typeName = TypeTag.object.text := by
  cases blueprint with
  | array =>
      rw [Accepts] at accepted
      obtain ⟨items, rfl⟩ := accepted
      rfl
  | arrayOf =>
      rw [Accepts] at accepted
      obtain ⟨items, rfl, -⟩ := accepted
      rfl
  | objectOf | shape =>
      rw [Accepts] at accepted
      obtain ⟨cls, entries, rfl, -⟩ := accepted
      rfl
  | _ => cases container

namespace Looser

/-- No step makes presence required. -/
theorem isRequired_eq_false {p q : Blueprint ν} (looser : Looser p q) (optional : p.isRequired = false) :
    q.isRequired = false := by
  induction looser with
  | refl => exact optional
  | trans first second ihFirst ihSecond => exact ihSecond (ihFirst optional)
  | dropRequired | inRequired => cases optional
  | _ => rfl

/-- What holds of the present values holds of the absent one as well. -/
theorem accepts_of_present {p q : Blueprint ν} (looser : Looser p q)
    (present : ∀ value field, p.Accepts (some value) field → q.Accepts (some value) field)
    (value? : Option Value) (field : String) (accepted : p.Accepts value? field) : q.Accepts value? field := by
  cases value? with
  | none => exact accepts_none_iff.mpr (looser.isRequired_eq_false (accepts_none_iff.mp accepted))
  | some value => exact present value field accepted

theorem accepts_present {p q : Blueprint ν} (looser : Looser p q) (value : Value) (field : String)
    (accepted : p.Accepts (some value) field) : q.Accepts (some value) field := by
  induction looser generalizing value field with
  | refl => exact accepted
  | trans first second ihFirst ihSecond => exact ihSecond value field (ihFirst value field accepted)
  | dropRequired p =>
      rw [Accepts] at accepted
      exact accepted
  | toAny =>
      rw [Accepts]
      trivial
  | toArray element =>
      rw [Accepts] at accepted
      rw [Accepts]
      obtain ⟨items, same, -⟩ := accepted
      exact ⟨items, same⟩
  | toObject container =>
      rw [Accepts]
      exact typeName_of_accepts container accepted
  | addAllowed more =>
      rw [Accepts] at accepted ⊢
      obtain ⟨candidate, member, equal⟩ := accepted
      exact ⟨candidate, more member, equal⟩
  | addAlternatives more =>
      rw [Accepts] at accepted ⊢
      obtain ⟨alternative, member, passed⟩ := accepted
      exact ⟨alternative, more member, passed⟩
  | removeKey key fields =>
      rw [Accepts] at accepted ⊢
      obtain ⟨cls, entries, same, declares⟩ := accepted
      refine ⟨cls, entries, same, ?_⟩
      intro name declared given
      rw [lastGiven?_filter_ne] at given
      split at given
      · cases given
      · exact declares name declared given
  | toAncestor descent =>
      rw [Accepts] at accepted ⊢
      obtain ⟨own, constructed, descends⟩ := accepted
      exact ⟨own, constructed, descends.trans descent⟩
  | inRequired inner ih =>
      rw [Accepts] at accepted ⊢
      exact ih value field accepted
  | inArrayOf inner ih =>
      rw [Accepts] at accepted ⊢
      obtain ⟨items, same, elements⟩ := accepted
      exact ⟨items, same, fun i item found => ih item _ (elements i item found)⟩
  | inObjectOf inner ih =>
      rw [Accepts] at accepted ⊢
      obtain ⟨cls, entries, same, fields⟩ := accepted
      exact ⟨cls, entries, same, fun name item member => ih item _ (fields name item member)⟩
  | @inOneOfType before after p q inner ih =>
      rw [Accepts] at accepted ⊢
      obtain ⟨alternative, member, passed⟩ := accepted
      rcases List.mem_append.mp member with earlier | rest
      · exact ⟨alternative, List.mem_append_left _ earlier, passed⟩
      · rcases List.mem_cons.mp rest with rfl | later
        · exact ⟨q, List.mem_append_right _ List.mem_cons_self, ih value field passed⟩
        · exact ⟨alternative, List.mem_append_right _ (List.mem_cons_of_mem _ later), passed⟩
  | @inShape before after key p q inner ih =>
      rw [Accepts] at accepted ⊢
      obtain ⟨cls, entries, same, declares⟩ := accepted
      refine ⟨cls, entries, same, ?_⟩
      intro name declared given
      -- the name has the checker that it had before, or the looser one in its place
      rcases lastGiven?_of_replaced p given with unchanged | ⟨rfl, replaced⟩
      · exact declares name declared unchanged
      · exact inner.accepts_of_present ih _ _ (declares name p replaced)

/-- A looser blueprint accepts what the stricter one accepts. -/
theorem accepts {p q : Blueprint ν} (looser : Looser p q) {value? : Option Value} {field : String}
    (accepted : p.Accepts value? field) : q.Accepts value? field :=
  looser.accepts_of_present looser.accepts_present value? field accepted

theorem validate_build_ok {p q : Blueprint ν} (looser : Looser p q) {value? : Option Value} {field : String}
    (passed : (p.build.validate value? field).result = .ok ()) :
    (q.build.validate value? field).result = .ok () := by
  have accepted := (validate_build_ok_of_present fun value => check_build_ok_iff p value field).mp passed
  exact (validate_build_ok_of_present fun value => check_build_ok_iff q value field).mpr (looser.accepts accepted)

end Looser

end Blueprint

namespace Schema

/-- The second schema arises from the first by loosening the checker of a field, or without a field. -/
inductive Loosened : Schema ν → Schema ν → Prop where
  | field {schema : Schema ν} {name : String} {p q : Blueprint ν}
      (declared : schema.get? name = some (.single p.build)) (looser : p.Looser q) :
      Loosened schema (schema.insert name (.single q.build))
  | removal (schema : Schema ν) (name : String) : Loosened schema (schema.erase name)

namespace Loosened

/-- One step keeps every field passing. -/
theorem validate_ok {schema loosened : Schema ν} (step : Loosened schema loosened) {props : Props}
    (passed : (schema.validate props).result = .ok ()) : (loosened.validate props).result = .ok () := by
  rw [validate_ok_iff] at passed ⊢
  intro entry member
  cases step with
  | @field name p q declared looser =>
      rcases mem_putEntry member with rfl | unchanged
      · have before := passed (name, .single p.build) (mem_of_lookup declared)
        exact looser.validate_build_ok before
      · exact passed entry unchanged
  | removal name => exact passed entry (List.mem_filter.mp member).1

end Loosened

/-- Properties that pass a schema pass it after any number of its checkers are loosened and its fields removed. -/
theorem validate_ok_of_loosened {schema loosened : Schema ν}
    (steps : Relation.ReflTransGen Loosened schema loosened) {props : Props}
    (passed : (schema.validate props).result = .ok ()) : (loosened.validate props).result = .ok () := by
  induction steps with
  | refl => exact passed
  | tail earlier step ih => exact step.validate_ok ih

/-- An array of texts that has to be there. -/
def tagsBlueprint : Blueprint Unit := .required (.arrayOf (.typed .string .string))

/-- A schema that asks for a flag and for tags. -/
def taggedSchema : Schema Unit :=
  ofCheckers [("open", Checker.bool.required), ("tags", tagsBlueprint.build)]

/-- The tags may be missing or of any type, and nothing is said of `open`. -/
def looserSchema : Schema Unit :=
  (taggedSchema.insert "tags" (.single (Blueprint.arrayOf .any).build)).erase "open"

/-- Properties with the flag and one tag. -/
def taggedProps : Props := .ofList [("open", .bool true), ("tags", .array [.string "a"])]

theorem validate_ok_looserSchema :
    Relation.ReflTransGen Loosened taggedSchema looserSchema ∧
      (taggedSchema.validate taggedProps).result = .ok () ∧ (looserSchema.validate taggedProps).result = .ok () := by
  have looser : tagsBlueprint.Looser (.arrayOf .any) := (Blueprint.Looser.dropRequired _).trans (.inArrayOf (.toAny _))
  have steps : Relation.ReflTransGen Loosened taggedSchema looserSchema :=
    .tail (.single (.field rfl looser)) (.removal _ "open")
  have passed : (taggedSchema.validate taggedProps).result = .ok () := rfl
  exact ⟨steps, passed, validate_ok_of_loosened steps passed⟩

end Schema

end RecordCheck
