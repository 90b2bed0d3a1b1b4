import RecordCheck.Proofs.Record
import RecordCheck.Proofs.Schema.Log

/-!
# The walk through a schema

A validation passes if every field does, and otherwise ends at the first field that fails. `Schema.firstFailing?` looks
for this field without a walk: the validation passes if there is none (`Schema.firstFailing?_eq_none_iff`), and its log
names this field and no other (`Schema.failedFields_validate`).
-/

namespace RecordCheck

variable {ν : Type}

/-- The field whose failure the entry reports. -/
def Entry.failedField? : Entry ν → Option String
  | event (.fieldFailed name _ _) => some name
  | _ => none

namespace Schema

/-- Names that are declared again keep their place and take the later checker, in a schema as in a shape. -/
theorem entries_ofCheckers (pairs : List (String × Checker ν)) :
    (ofCheckers pairs).entries = (collect pairs).map fun entry => (entry.1, Field.single entry.2) :=
  collect_map Field.single pairs

theorem runField_ok_iff {props : Props} {entry : String × Field ν} :
    (runField props entry).result = .ok () ↔ (entry.2.run props entry.1).result = .ok () := by
  unfold runField
  cases outcome : (entry.2.run props entry.1).result with
  | ok => simp [outcome]
  | error => simp [outcome]

theorem validate_ok_iff {schema : Schema ν} {props : Props} :
    (schema.validate props).result = .ok () ↔
      ∀ entry ∈ schema.entries, (entry.2.run props entry.1).result = .ok () := by
  rw [validate, Traced.firstFailure_ok_iff]
  simp only [runField_ok_iff]

/-- The name of the first declared field that fails. -/
def firstFailing? (schema : Schema ν) (props : Props) : Option String :=
  (schema.entries.find? fun entry => (entry.2.run props entry.1).failed).map Prod.fst

theorem firstFailing?_eq_none_iff {schema : Schema ν} {props : Props} :
    schema.firstFailing? props = none ↔ (schema.validate props).result = .ok () := by
  simp only [firstFailing?, Option.map_eq_none_iff, List.find?_eq_none, Bool.not_eq_true, Traced.failed_eq_false_iff,
    validate_ok_iff]

/-- A field reports itself if it fails, and nothing else. -/
theorem failedFields_runField (props : Props) (name : String) (field : Field ν) :
    (runField props (name, field)).notes.filterMap Entry.failedField? =
      if (field.run props name).failed then [name] else [] := by
  have silent : ((field.run props name).notes.map Entry.note).filterMap Entry.failedField? = [] := by
    simp [List.filterMap_map, Entry.failedField?]
  simp only [runField_eq, Traced.bind, Traced.mapNotes, List.filterMap_append, silent, List.nil_append]
  cases outcome : (field.run props name).result with
  | ok =>
      rw [Traced.failed_eq_false_iff.mpr outcome]
      rfl
  | error diagnostic =>
      rw [Traced.failed_of_error outcome]
      rfl

/-- The log of a validation names the first field that fails, and no other. -/
theorem failedFields_validate (schema : Schema ν) (props : Props) :
    (schema.validate props).notes.filterMap Entry.failedField? = (schema.firstFailing? props).toList := by
  unfold validate firstFailing?
  induction schema.entries with
  | nil => rfl
  | cons entry rest ih =>
      have reported := failedFields_runField props entry.1 entry.2
      simp only [Traced.firstFailure, Traced.andThen, List.find?_cons]
      cases outcome : (runField props entry).result with
      | ok =>
          have passed := Traced.failed_eq_false_iff.mpr (runField_ok_iff.mp outcome)
          simpa [passed, reported] using ih
      | error refusal =>
          have failed : (entry.2.run props entry.1).failed = true :=
            (Traced.failed_eq_of_ok_iff runField_ok_iff).symm.trans (Traced.failed_of_error outcome)
          simp [failed, reported]

end Schema

end RecordCheck
