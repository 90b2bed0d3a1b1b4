import RecordCheck.Proofs.Checker.Congruence
import RecordCheck.Proofs.Schema.Walk

/-!
# What a validation depends on

A schema of checkers looks at the properties that it declares and at nothing else. Two records of properties that hold
the same of these, whatever else is in them and whatever their order is, are validated with one result and one log. If
they hold strictly equal values, they pass together or fail at the same field (`Schema.validate_congr`).
-/

namespace RecordCheck

variable {ν : Type}

/-- A checker passes strictly equal values together, and has one verdict on absence. -/
theorem Checker.validate_ok_iff_of_rel {checker : Checker ν} (customFree : checker.CustomFree)
    {value? value?' : Option Value} (related : Option.Rel (fun a b => a.strictEq b = true) value? value?')
    (wellFormed : ∀ value ∈ value?, value.WellFormed) (wellFormed' : ∀ value ∈ value?', value.WellFormed)
    (field : String) :
    (checker.validate value? field).result = .ok () ↔ (checker.validate value?' field).result = .ok () := by
  cases related with
  | none => exact Iff.rfl
  | some equal =>
      have same := Value.strictEq_iff.mp equal
      have here := wellFormed _ rfl
      have there := wellFormed' _ rfl
      exact ⟨check_ok_of_same customFree same here there,
        check_ok_of_same customFree (same.symm here there) there here⟩

/-- Properties hold well-formed values if they are well-formed as an object. -/
theorem Props.wellFormed_of_mem_get? {props : Props} (wellFormed : props.toValue.WellFormed) {name : String}
    {value : Value} (held : value ∈ props.get? name) : value.WellFormed :=
  (Value.every_iff.mp wellFormed).2 value (Value.mem_parts_of_mem_entries (mem_of_lookup held))

namespace Schema

/-- Every field is checked by a checker alone, and the checker satisfies `P`. -/
def CheckedBy (P : Checker ν → Prop) (schema : Schema ν) : Prop :=
  ∀ entry ∈ schema.entries, ∃ checker, entry.2 = .single checker ∧ P checker

theorem checkedBy_ofCheckers {P : Checker ν → Prop} {pairs : List (String × Checker ν)}
    (each : ∀ pair ∈ pairs, P pair.2) : (ofCheckers pairs).CheckedBy P := by
  intro entry member
  rw [entries_ofCheckers] at member
  obtain ⟨pair, collected, rfl⟩ := List.mem_map.mp member
  exact ⟨pair.2, rfl, each pair (mem_of_lastGiven? (mem_collect_iff.mp collected))⟩

/--
Properties that agree on what a schema of checkers declares are validated alike: with the same result and the same log
if the values are the same, and with the same verdict and the same first failing field, which the log names, if they
are strictly equal and no checker has a predicate of the caller.
-/
theorem validate_congr {schema : Schema ν} (p q : Props) :
    (schema.CheckedBy Checker.CustomFree → p.toValue.WellFormed → q.toValue.WellFormed →
      (∀ name ∈ schema.keys, Option.Rel (fun a b => a.strictEq b = true) (p.get? name) (q.get? name)) →
      ((schema.validate p).result = .ok () ↔ (schema.validate q).result = .ok ()) ∧
        schema.firstFailing? p = schema.firstFailing? q ∧
        (schema.validate p).notes.filterMap Entry.failedField? =
          (schema.validate q).notes.filterMap Entry.failedField?) ∧
    ((schema.CheckedBy fun _ => True) → (∀ name ∈ schema.keys, p.get? name = q.get? name) →
      schema.validate p = schema.validate q) := by
  constructor
  · intro checked wellFormed wellFormed' related
    have failing : schema.firstFailing? p = schema.firstFailing? q := by
      unfold firstFailing?
      rw [← List.head?_filter, ← List.head?_filter]
      congr 2
      apply List.filter_congr
      rintro ⟨name, field⟩ member
      obtain ⟨checker, rfl, customFree⟩ := checked _ member
      apply Traced.failed_eq_of_ok_iff
      exact Checker.validate_ok_iff_of_rel customFree (related name (List.mem_map_of_mem member))
        (fun value held => Props.wellFormed_of_mem_get? wellFormed held)
        (fun value held => Props.wellFormed_of_mem_get? wellFormed' held) name
    refine ⟨?_, failing, ?_⟩
    · rw [← firstFailing?_eq_none_iff, ← firstFailing?_eq_none_iff, failing]
    · rw [failedFields_validate, failedFields_validate, failing]
  · intro checked same
    apply Traced.firstFailure_congr
    rintro ⟨name, field⟩ member
    obtain ⟨checker, rfl, -⟩ := checked _ member
    simp only [runField, Field.run, same name (List.mem_map_of_mem member)]

/-- A schema of markers on a map. -/
def marker : Schema Unit :=
  .ofCheckers [("at", .shape [("x", .number), ("y", .number)]), ("labels", .arrayOf .string),
    ("name", Checker.string.required)]

/-- A marker with a label that is no string, and without a name. -/
def mislabelled : Props :=
  .ofList [("at", .plain [("x", .number (Double.zero false)), ("y", .number (Double.zero false))]),
    ("labels", .array [.bool true])]

/-- The same in another order, with the other zero, and with a color, which is not declared. -/
def recolored : Props :=
  .ofList [("color", .string "red"), ("labels", .array [.bool true]),
    ("at", .plain [("y", .number (Double.zero true)), ("x", .number (Double.zero false))])]

/-- A schema of one predicate, which takes a note and refuses everything. -/
def unlabelled : Schema Unit :=
  .ofCheckers [("labels", .custom fun _ field => ⟨.error (.custom field "no labels"), [()]⟩)]

theorem validate_congr_mislabelled :
    marker.CheckedBy Checker.CustomFree ∧ mislabelled.toValue.WellFormed ∧ recolored.toValue.WellFormed ∧
      (∀ name ∈ marker.keys,
        Option.Rel (fun a b => a.strictEq b = true) (mislabelled.get? name) (recolored.get? name)) ∧
      (marker.validate mislabelled).result =
        .error (.invalid (.element "labels" (.typeMismatch "labels.0" "string" "boolean"))) ∧
      (marker.validate recolored).result ≠ .ok () ∧
      marker.firstFailing? mislabelled = some "labels" ∧ marker.firstFailing? recolored = some "labels" ∧
      (unlabelled.CheckedBy fun _ => True) ∧
      (∀ name ∈ unlabelled.keys, mislabelled.get? name = recolored.get? name) ∧
      unlabelled.validate recolored =
        ⟨.error (.invalid (.custom "labels" "no labels")),
          [.note (), .event (.fieldFailed "labels" "labels" .custom)]⟩ ∧
      unlabelled.validate mislabelled = unlabelled.validate recolored := by
  have customFree : marker.CheckedBy Checker.CustomFree := by
    apply checkedBy_ofCheckers
    simp [Checker.shape, Checker.number, Checker.arrayOf, Checker.string, Checker.required, collect, putEntry,
      Checker.new, Checker.CustomFree, Checker.every_mk_iff, Rule.parts, Rule.isCustom]
  have number : ∀ x, (Value.number x).WellFormed := fun x => Value.wellFormed_leaf rfl rfl
  have bool : ∀ b, (Value.bool b).WellFormed := fun b => Value.wellFormed_leaf rfl rfl
  have text : ∀ s, (Value.string s).WellFormed := fun s => Value.wellFormed_leaf rfl rfl
  have labels : (Value.array [.bool true]).WellFormed := Value.wellFormed_array (by simp [bool])
  have position : ∀ x y, (Value.plain [("x", .number x), ("y", .number y)]).WellFormed :=
    fun x y => Value.wellFormed_plain (by simp [number])
  have position' : ∀ x y, (Value.plain [("y", .number y), ("x", .number x)]).WellFormed :=
    fun x y => Value.wellFormed_plain (by simp [number])
  have wellFormed : mislabelled.toValue.WellFormed := Value.wellFormed_plain (by simp [labels, position])
  have wellFormed' : recolored.toValue.WellFormed :=
    Value.wellFormed_plain (by simp [labels, text, position'])
  have related : ∀ name ∈ marker.keys,
      Option.Rel (fun a b => a.strictEq b = true) (mislabelled.get? name) (recolored.get? name) := by
    have keys : marker.keys = ["at", "labels", "name"] := rfl
    rw [keys]
    simp only [List.forall_mem_cons, List.not_mem_nil, false_imp_iff, implies_true, and_true]
    refine ⟨?_, ?_, ?_⟩
    · exact .some (by decide)
    · exact .some (by decide)
    · exact .none
  have checked : unlabelled.CheckedBy fun _ => True := checkedBy_ofCheckers fun _ _ => trivial
  have identical : ∀ name ∈ unlabelled.keys, mislabelled.get? name = recolored.get? name := by
    have keys : unlabelled.keys = ["labels"] := rfl
    rw [keys, List.forall_mem_singleton]
    rfl
  obtain ⟨verdict, failing, -⟩ := (validate_congr mislabelled recolored).1 customFree wellFormed wellFormed' related
  have failure : (marker.validate mislabelled).result =
      .error (.invalid (.element "labels" (.typeMismatch "labels.0" "string" "boolean"))) := rfl
  have refused : (marker.validate recolored).result ≠ .ok () := by
    rw [ne_eq, ← verdict, failure]
    simp
  exact ⟨customFree, wellFormed, wellFormed', related, failure, refused, rfl, failing.symm.trans rfl, checked, identical,
    rfl, (validate_congr mislabelled recolored).2 checked identical⟩

end Schema

end RecordCheck
