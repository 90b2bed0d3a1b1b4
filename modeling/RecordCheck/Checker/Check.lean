import RecordCheck.Checker
import RecordCheck.Value.Text

/-!
# Checking values

`Checker.check` checks a present value at a field, `Checker.validate` one that may be absent. The parts of a container
are checked in order at the field extended by their index or name, up to and including the first that is rejected.
An absent value never reaches a rule.
-/

namespace RecordCheck

variable {ν : Type}

/-- The field of a part of the value at a field. -/
def child (field step : String) : String := field ++ "." ++ step

/-- A rejection of what is not an object; null and arrays are called by their own names. -/
def notAnObject (field : String) (value : Value) : Diagnostic :=
  .typeMismatch field TypeTag.object.text
    (match value with
      | .null => "null"
      | .array _ => "array"
      | other => other.typeName)

/-- The verdict on an absent value. -/
def checkAbsent (isRequired : Bool) (field : String) : Traced ν Verdict :=
  if isRequired then .fail (.missing field) else .ok

mutual

/-- Checks a present value at a field. -/
def Checker.check : Checker ν → Value → String → Traced ν Verdict
  | .mk _ _ rule, value, field => rule.check value field

/-- Checks a value at a field by a rule. -/
def Rule.check : Rule ν → Value → String → Traced ν Verdict
  | .anything, _, _ => .ok
  | .typed tag, value, field =>
      if value.typeName = tag.text then .ok
      else .fail (.typeMismatch field tag.text value.typeName)
  | .array, value, field =>
      match value with
      | .array _ => .ok
      | other => .fail (.notAnArray field other.typeName)
  | .arrayOf element, value, field =>
      match value with
      | .array items =>
          (Traced.firstFailure (fun part => element.check part.1 (child field part.2.repr)) items.zipIdx).mapError
            (.element field)
      | other => .fail (.notAnArray field other.typeName)
  | .objectOf element, value, field =>
      match value with
      | .object _ entries =>
          (Traced.firstFailure (fun part => element.check part.2 (child field part.1)) entries).mapError
            Diagnostic.asNested
      | other => .fail (notAnObject field other)
  | .oneOf allowed, value, field =>
      if allowed.any (·.strictEq value) then .ok
      else .fail (.notAllowed field (allowed.map Value.text) value.text)
  | .oneOfType alternatives, value, field =>
      (acceptedByAny alternatives value field).bind fun accepted =>
        if accepted then .ok
        else .fail (.noMatch field (alternatives.map Checker.name) value.typeName)
  | .shape fields, value, field =>
      match value with
      | .object _ entries => (checkFields fields entries field).mapError Diagnostic.asNested
      | other => .fail (notAnObject field other)
  | .instanceOf cls, value, field =>
      if value.isInstanceOf cls then .ok
      else .fail (.notAnInstance field cls.name (value.constructorName?.getD "null"))
  | .custom predicate, value, field => predicate value field

/-- Tries checkers in order until one accepts the value. -/
def acceptedByAny : List (Checker ν) → Value → String → Traced ν Bool
  | [], _, _ => .pure false
  | checker :: rest, value, field =>
      let first := checker.check value field
      match first.result with
      | .ok () => ⟨true, first.notes⟩
      | .error _ =>
          let later := acceptedByAny rest value field
          ⟨later.result, first.notes ++ later.notes⟩

/-- Checks the declared fields of an object in order; a field that the object lacks is absent. -/
def checkFields : List (String × Checker ν) → List (String × Value) → String → Traced ν Verdict
  | [], _, _ => .ok
  | (name, checker) :: rest, entries, field =>
      (match entries.lookup name with
        | some value => checker.check value (child field name)
        | none => checkAbsent checker.isRequired (child field name)).andThen
        fun _ => checkFields rest entries field

end

/-- Checks a value that may be absent. -/
def Checker.validate (checker : Checker ν) (value? : Option Value) (field : String) : Traced ν Verdict :=
  match value? with
  | some value => checker.check value field
  | none => checkAbsent checker.isRequired field

/-- The fields of a shape are validated one after the other. -/
theorem checkFields_eq_firstFailure (fields : List (String × Checker ν)) (entries : List (String × Value))
    (field : String) :
    checkFields fields entries field =
      Traced.firstFailure (fun part => part.2.validate (entries.lookup part.1) (child field part.1)) fields := by
  induction fields with
  | nil => rfl
  | cons part rest ih =>
      obtain ⟨name, checker⟩ := part
      simp only [checkFields, Traced.firstFailure, ih]
      cases entries.lookup name with
      | none => rfl
      | some value => rfl

end RecordCheck
