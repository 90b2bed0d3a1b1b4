import RecordCheck.Checker.Check
import RecordCheck.Proofs.Checker.Tree
import RecordCheck.Proofs.Traced
import RecordCheck.Proofs.Value

/-!
# What a check looks at

A rule tests the value as such (`Rule.admits`) and then visits the value's parts with the checkers it holds
(`Rule.visits`). Most rules need all their visits to succeed: `Rule.check_of_admits` and `Rule.check_of_not_admits`
say what such a rule does with any value. A union needs one visit to succeed (`Rule.check_oneOfType`). A rule that no
caller wrote therefore fails with its own report, or with the wrapped failure of a visit (`Rule.error_cases`).
-/

namespace RecordCheck

variable {ν : Type}

/-- A checker applied to a part of a value, which may be absent, at a field. -/
structure Visit (ν : Type) where
  checker : Checker ν
  value? : Option Value
  field : String

/-- What the visit comes to. -/
def Visit.verdict (visit : Visit ν) : Traced ν Verdict := visit.checker.validate visit.value? visit.field

namespace Rule

/-- Whether the rule passes only if all its visits do. -/
def needsAll : Rule ν → Bool
  | oneOfType _ | custom _ => false
  | _ => true

/-- The test of the value as such, whatever its parts are. -/
def admits : Rule ν → Value → Bool
  | typed tag, value => value.typeName = tag.text
  | array, value | arrayOf _, value => value.isArray
  | objectOf _, value | shape _, value => value.isObject
  | oneOf allowed, value => allowed.any (·.strictEq value)
  | instanceOf cls, value => value.isInstanceOf cls
  | anything, _ | oneOfType _, _ | custom _, _ => true

/-- The checkers of the rule with what they are applied to, in order. -/
def visits : Rule ν → Value → String → List (Visit ν)
  | arrayOf element, value, field =>
      value.items.zipIdx.map fun part => ⟨element, some part.1, child field part.2.repr⟩
  | objectOf element, value, field =>
      value.entries.map fun part => ⟨element, some part.2, child field part.1⟩
  | shape fields, value, field =>
      if value.isObject then
        fields.map fun part => ⟨part.2, value.entries.lookup part.1, child field part.1⟩
      else []
  | oneOfType alternatives, value, field => alternatives.map fun checker => ⟨checker, some value, field⟩
  | _, _, _ => []

/-- How the rule hands on the failure of a visit. -/
def wrap : Rule ν → String → Diagnostic → Diagnostic
  | arrayOf _, field, cause => .element field cause
  | _, _, cause => cause.asNested

/-- What the rule itself has to say against a value at a field. -/
inductive Reports (value : Value) (field : String) : Rule ν → Diagnostic → Prop where
  | typed (tag : TypeTag) : Reports value field (.typed tag) (.typeMismatch field tag.text value.typeName)
  | array : Reports value field .array (.notAnArray field value.typeName)
  | arrayOf (element : Checker ν) : Reports value field (.arrayOf element) (.notAnArray field value.typeName)
  | objectOf (element : Checker ν) :
      Reports value field (.objectOf element) (.typeMismatch field "object" value.containerName)
  | shape (fields : List (String × Checker ν)) :
      Reports value field (.shape fields) (.typeMismatch field "object" value.containerName)
  | oneOf (allowed : List Value) :
      Reports value field (.oneOf allowed) (.notAllowed field (allowed.map Value.text) value.text)
  | oneOfType (alternatives : List (Checker ν)) :
      Reports value field (.oneOfType alternatives)
        (.noMatch field (alternatives.map Checker.name) value.typeName)
  | instanceOf (cls : Class) :
      Reports value field (.instanceOf cls)
        (.notAnInstance field cls.name (value.constructorName?.getD "null"))

theorem checker_mem_parts {rule : Rule ν} {value : Value} {field : String} {visit : Visit ν}
    (member : visit ∈ rule.visits value field) : visit.checker ∈ rule.parts := by
  cases rule with
  | arrayOf element | objectOf element =>
      obtain ⟨part, -, rfl⟩ := List.mem_map.mp member
      exact List.mem_singleton_self element
  | shape fields =>
      simp only [visits] at member
      split at member
      · obtain ⟨part, inside, rfl⟩ := List.mem_map.mp member
        exact List.mem_map_of_mem inside
      · cases member
  | oneOfType alternatives =>
      obtain ⟨checker, inside, rfl⟩ := List.mem_map.mp member
      exact inside
  | _ => cases member

private theorem notAnObject_eq (field : String) (value : Value) :
    notAnObject field value = .typeMismatch field "object" value.containerName := by
  cases value with
  | _ => rfl

/-- A value that is not admitted is reported at once. -/
theorem check_of_not_admits {rule : Rule ν} {value : Value} (refused : rule.admits value = false)
    (field : String) : ∃ report, Reports value field rule report ∧ rule.check value field = .fail report := by
  cases rule with
  | typed tag =>
      refine ⟨_, .typed tag, if_neg ?_⟩
      exact of_decide_eq_false refused
  | array =>
      refine ⟨_, .array, ?_⟩
      cases value with
      | array => cases refused
      | _ => rfl
  | arrayOf element =>
      refine ⟨_, .arrayOf element, ?_⟩
      cases value with
      | array => cases refused
      | _ => rfl
  | objectOf element =>
      refine ⟨_, .objectOf element, ?_⟩
      rw [← notAnObject_eq]
      cases value with
      | object => cases refused
      | _ => rfl
  | shape fields =>
      refine ⟨_, .shape fields, ?_⟩
      rw [← notAnObject_eq]
      cases value with
      | object => cases refused
      | _ => rfl
  | oneOf allowed =>
      refine ⟨_, .oneOf allowed, if_neg ?_⟩
      exact Bool.eq_false_iff.mp refused
  | instanceOf cls =>
      refine ⟨_, .instanceOf cls, if_neg ?_⟩
      exact Bool.eq_false_iff.mp refused
  | _ => cases refused

/-- An admitted value is checked by visiting its parts up to the first that fails. -/
theorem check_of_admits {rule : Rule ν} {value : Value} (all : rule.needsAll = true)
    (admitted : rule.admits value = true) (field : String) :
    rule.check value field =
      (Traced.firstFailure Visit.verdict (rule.visits value field)).mapError (rule.wrap field) := by
  cases rule with
  | anything => rfl
  | typed tag => exact if_pos (of_decide_eq_true admitted)
  | array =>
      rw [Value.eq_array_of_isArray admitted]
      rfl
  | arrayOf element =>
      rw [Value.eq_array_of_isArray admitted]
      simp only [visits, Traced.firstFailure_map]
      rfl
  | objectOf element =>
      obtain ⟨cls, same⟩ := Value.eq_object_of_isObject admitted
      rw [same]
      simp only [visits, Traced.firstFailure_map]
      rfl
  | shape fields =>
      obtain ⟨cls, same⟩ := Value.eq_object_of_isObject admitted
      rw [same]
      simp only [Rule.check, checkFields_eq_firstFailure, visits, Value.isObject, if_true,
        Traced.firstFailure_map]
      rfl
  | oneOf allowed => exact if_pos admitted
  | instanceOf cls => exact if_pos admitted
  | oneOfType | custom => cases all

/-- A rule that needs all its visits accepts a value that it admits and whose parts pass. -/
theorem check_ok_iff {rule : Rule ν} (all : rule.needsAll = true) {value : Value} {field : String} :
    (rule.check value field).result = .ok () ↔
      rule.admits value = true ∧ ∀ visit ∈ rule.visits value field, visit.verdict.result = .ok () := by
  by_cases admitted : rule.admits value = true
  · rw [check_of_admits all admitted, Traced.mapError_ok_iff, Traced.firstFailure_ok_iff]
    simp [admitted]
  · obtain ⟨report, -, refused⟩ := check_of_not_admits (Bool.eq_false_iff.mpr admitted) field
    simp [refused, admitted, Traced.fail]

/-- Alternatives are tried in order up to the first that accepts. -/
theorem acceptedByAny_eq (alternatives : List (Checker ν)) (value : Value) (field : String) :
    acceptedByAny alternatives value field =
      ⟨alternatives.any fun checker => !(checker.check value field).failed,
        (throughFirst (fun checker => !(checker.check value field).failed) alternatives).flatMap
          fun checker => (checker.check value field).notes⟩ := by
  induction alternatives with
  | nil => rfl
  | cons checker rest ih =>
      simp only [acceptedByAny, List.any_cons, throughFirst]
      cases outcome : (checker.check value field).result with
      | ok => simp [Traced.failed_eq_false_iff.mpr outcome]
      | error cause => simp [Traced.failed_of_error outcome, ih]

theorem check_oneOfType (alternatives : List (Checker ν)) (value : Value) (field : String) :
    (oneOfType alternatives).check value field =
      ⟨if alternatives.any fun checker => !(checker.check value field).failed then .ok ()
        else .error (.noMatch field (alternatives.map Checker.name) value.typeName),
        (acceptedByAny alternatives value field).notes⟩ := by
  simp only [Rule.check, Traced.bind, acceptedByAny_eq]
  split
  · simp [Traced.ok]
  · simp [Traced.fail]

theorem check_oneOfType_ok_iff {alternatives : List (Checker ν)} {value : Value} {field : String} :
    ((oneOfType alternatives).check value field).result = .ok () ↔
      ∃ checker ∈ alternatives, (checker.check value field).result = .ok () := by
  rw [check_oneOfType]
  simp [Traced.failed_eq_false_iff]

/-- A rule that no caller wrote fails with its own report, or hands on the failure of the first visit that fails. -/
theorem error_cases {rule : Rule ν} (own : rule.isCustom = false) {value : Value} {field : String}
    {diagnostic : Diagnostic} (failure : (rule.check value field).result = .error diagnostic) :
    Reports value field rule diagnostic ∨
      rule.needsAll = true ∧ ∃ before visit after cause,
        rule.visits value field = before ++ visit :: after ∧
          (∀ earlier ∈ before, earlier.verdict.result = .ok ()) ∧
          visit.verdict.result = .error cause ∧ rule.wrap field cause = diagnostic := by
  by_cases all : rule.needsAll = true
  · by_cases admitted : rule.admits value = true
    · rw [check_of_admits all admitted, Traced.mapError_error_iff] at failure
      obtain ⟨cause, first, wrapped⟩ := failure
      obtain ⟨before, visit, after, order, passed, failed⟩ := Traced.firstFailure_error_iff.mp first
      exact .inr ⟨all, before, visit, after, cause, order, passed, failed, wrapped⟩
    · obtain ⟨report, reported, refused⟩ := check_of_not_admits (Bool.eq_false_iff.mpr admitted) field
      rw [refused] at failure
      cases failure
      exact .inl reported
  · cases rule with
    | oneOfType alternatives =>
        rw [check_oneOfType] at failure
        split at failure
        · cases failure
        · cases failure
          exact .inl (.oneOfType alternatives)
    | custom => cases own
    | _ => exact absurd rfl all

end Rule

end RecordCheck
