import RecordCheck.Proofs.Checker.Rerooting
import RecordCheck.Proofs.Schema.Walk

/-!
# Schemas and shapes

The same declarations make a schema, which is run on properties, and a shape, which checks an object at a field. The
two accept the same properties. Where they fail, the shape hands on the failure of the schema, with its own field in
front of all fields and wrapped as a failure inside of the object (`Schema.shape_agrees`).
-/

namespace RecordCheck.Schema

variable {ν : Type}

/-- The refusal is for a diagnostic, which the shape at the field reports from there. -/
def ReportedUnder (field : String) (refusal : Refusal) (diagnostic : Diagnostic) : Prop :=
  ∃ cause, refusal = .invalid cause ∧ diagnostic = cause.rerooted (field ++ ".")

/-- A field of a schema and the same field of a shape are run in parallel. -/
theorem parallel_runField {checker : Checker ν} (customFree : checker.CustomFree) (props : Props)
    (field name : String) :
    Parallel (ReportedUnder field) (runField props (name, .single checker)).result
      (checker.validate (props.get? name) (child field name)).result := by
  have parallel := checker.validate_rerooted customFree (props.get? name) name (field ++ ".")
  have ran : (runField props (name, .single checker)).result =
      (checker.validate (props.get? name) name).result.mapError .invalid := by
    rw [runField, Field.run]
    cases (checker.validate (props.get? name) name).result with
    | ok => rfl
    | error => rfl
  rw [ran]
  rcases parallel.ok_or_error with ⟨passed, passed'⟩ | ⟨cause, diagnostic, failure, failure', related⟩
  · rw [passed, child, passed']
    exact .ok
  · rw [failure, child, failure']
    exact .error ⟨cause, rfl, related⟩

/-- The walks through a schema and through the fields of a shape are parallel. -/
theorem parallel_validate {pairs : List (String × Checker ν)} (customFree : ∀ pair ∈ pairs, pair.2.CustomFree)
    (props : Props) (cls : Class) (field : String) :
    Parallel (ReportedUnder field) ((ofCheckers pairs).validate props).result
      (Traced.firstFailure Visit.verdict
        ((Rule.shape (collect pairs)).visits (.object cls props.entries) field)).result := by
  have each : ∀ entry ∈ collect pairs, entry.2.CustomFree := by
    intro entry member
    have given := mem_of_lastGiven? (mem_collect_iff.mp member)
    exact customFree entry given
  apply Traced.parallel_firstFailure
  rw [entries_ofCheckers]
  refine List.forall₂_map_left_iff.mpr (List.forall₂_map_right_iff.mpr (List.forall₂_same.mpr ?_))
  intro entry member
  exact parallel_runField (each entry member) props field entry.1

/--
The schema that declares checkers passes the properties that the shape of the same checkers accepts in an object with
these fields. When they fail, the shape's diagnostic is that of the schema from the field of the object.
-/
theorem shape_agrees {pairs : List (String × Checker ν)} (customFree : ∀ pair ∈ pairs, pair.2.CustomFree)
    (props : Props) (cls : Class) (field : String) :
    (((ofCheckers pairs).validate props).result = .ok () ↔
        ((Checker.shape pairs).check (.object cls props.entries) field).result = .ok ()) ∧
      ∀ refusal, ((ofCheckers pairs).validate props).result = .error refusal →
        ∃ diagnostic, refusal = .invalid diagnostic ∧
          ((Checker.shape pairs).check (.object cls props.entries) field).result =
            .error (diagnostic.rerooted (field ++ ".")).asNested := by
  have walks := parallel_validate customFree props cls field
  have checked : (Checker.shape pairs).check (.object cls props.entries) field =
      (Traced.firstFailure Visit.verdict
        ((Rule.shape (collect pairs)).visits (.object cls props.entries) field)).mapError Diagnostic.asNested :=
    Rule.check_of_admits rfl rfl field
  rw [checked]
  constructor
  · rw [walks.ok_iff, Traced.mapError_ok_iff]
  · intro refusal failure
    obtain ⟨diagnostic, failure', cause, rfl, rfl⟩ := walks.error_of_error failure
    exact ⟨cause, rfl, Traced.mapError_error_iff.mpr ⟨_, failure', rfl⟩⟩

/-- Declarations of which one name is given twice. -/
def tagged : List (String × Checker Unit) :=
  [("tags", .array), ("id", .required .number), ("tags", .arrayOf (.shape [("name", .string)]))]

/-- Properties with a tag whose name is no text. -/
def misnamed : Props := .ofList [("tags", .array [.plain [("name", .bool true)]])]

theorem shape_agrees_misnamed :
    (∀ pair ∈ tagged, pair.2.CustomFree) ∧
      ((ofCheckers tagged).validate misnamed).result =
        .error (.invalid (.element "tags" (.nested "tags.0.name"
          (.typeMismatch "tags.0.name" "string" "boolean")))) ∧
      ((Checker.shape tagged).check misnamed.toValue "post").result =
        .error (.nested "post.tags" (.element "post.tags" (.nested "post.tags.0.name"
          (.typeMismatch "post.tags.0.name" "string" "boolean")))) := by
  have customFree : ∀ pair ∈ tagged, pair.2.CustomFree := by
    simp [tagged, Checker.array, Checker.required, Checker.number, Checker.arrayOf, Checker.shape, Checker.string,
      collect, putEntry, Checker.new, Checker.CustomFree, Checker.every_mk_iff, Rule.parts, Rule.isCustom]
  have failure : ((ofCheckers tagged).validate misnamed).result =
      .error (.invalid (.element "tags" (.nested "tags.0.name"
        (.typeMismatch "tags.0.name" "string" "boolean")))) := rfl
  obtain ⟨diagnostic, same, checked⟩ := (shape_agrees customFree misnamed .object "post").2 _ failure
  cases same
  exact ⟨customFree, failure, checked⟩

end RecordCheck.Schema
