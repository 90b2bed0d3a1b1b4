import Mathlib.Data.List.Basic
import RecordCheck.Proofs.Checker.Visit

/-!
# The order of checks

A `Run` is one call of a predicate of the caller. The runs of a check are listed depth first (`Checker.runs`): a rule
goes through its visits in order, a union up to the first alternative that accepts and every other rule up to the
first part that is rejected (`Rule.examined`); what is absent is never looked into. The notes of a check are those of
its runs in this order, and a container hands on the failure of the last part that it examined
(`Checker.validate_order`).
-/

namespace RecordCheck

variable {ν : Type}

/-- A call of a predicate with a value at a field. -/
structure Run (ν : Type) where
  predicate : Predicate ν
  value : Value
  field : String

/-- What the predicate says of the value. -/
def Run.outcome (run : Run ν) : Traced ν Verdict := run.predicate run.value run.field

namespace Rule

/-- The call of the rule's own predicate, if it has one. -/
def ownRuns : Rule ν → Value → String → List (Run ν)
  | custom predicate, value, field => [⟨predicate, value, field⟩]
  | _, _, _ => []

/-- Whether the rule looks no further after a visit: a union once a visit accepts, the others once one rejects. -/
def stopsAt : Rule ν → Visit ν → Bool
  | oneOfType _, visit => !visit.verdict.failed
  | _, visit => visit.verdict.failed

/-- The visits that take place. -/
def examined (rule : Rule ν) (value : Value) (field : String) : List (Visit ν) :=
  throughFirst rule.stopsAt (rule.visits value field)

/-- Whether the rule is one of arrays, objects or shapes that looks at the parts of the value. -/
def isContainer : Rule ν → Bool
  | arrayOf _ | objectOf _ | shape _ => true
  | _ => false

theorem checker_mem_parts_of_examined {rule : Rule ν} {value : Value} {field : String} {visit : Visit ν}
    (member : visit ∈ rule.examined value field) : visit.checker ∈ rule.parts :=
  checker_mem_parts (mem_of_mem_throughFirst member)

end Rule

/-- The calls of predicates during the check of a present value, in order. -/
def Checker.runs : Checker ν → Value → String → List (Run ν)
  | mk _ _ rule, value, field =>
      rule.ownRuns value field ++ (rule.examined value field).attach.flatMap fun ⟨visit, _⟩ =>
        match visit.value? with
        | some part => visit.checker.runs part visit.field
        | none => []
termination_by checker => sizeOf checker
decreasing_by
  have smaller := Rule.sizeOf_lt_of_mem_parts (Rule.checker_mem_parts_of_examined ‹_›)
  simp only [mk.sizeOf_spec]
  omega

/-- The calls of predicates during a visit; nothing is called for an absent value. -/
def Visit.runs (visit : Visit ν) : List (Run ν) :=
  match visit.value? with
  | some part => visit.checker.runs part visit.field
  | none => []

theorem Visit.notes_verdict (visit : Visit ν) :
    visit.verdict.notes =
      match visit.value? with
      | some part => (visit.checker.check part visit.field).notes
      | none => [] := by
  unfold verdict Checker.validate
  cases visit.value? with
  | some part => rfl
  | none =>
      simp only [checkAbsent]
      cases visit.checker.isRequired with
      | false => rfl
      | true => rfl

namespace Rule

theorem needsAll_of_isContainer {rule : Rule ν} (container : rule.isContainer = true) :
    rule.needsAll = true := by
  cases rule with
  | arrayOf | objectOf | shape => rfl
  | _ => cases container

theorem visits_of_not_admits {rule : Rule ν} {value : Value} (refused : rule.admits value = false)
    (field : String) : rule.visits value field = [] := by
  cases rule with
  | arrayOf element =>
      cases value with
      | array => cases refused
      | _ => rfl
  | objectOf element =>
      cases value with
      | object => cases refused
      | _ => rfl
  | shape fields => exact if_neg (Bool.eq_false_iff.mp refused)
  | oneOfType => cases refused
  | _ => rfl

theorem stopsAt_of_needsAll {rule : Rule ν} (all : rule.needsAll = true) :
    rule.stopsAt = fun visit => visit.verdict.failed := by
  cases rule with
  | oneOfType | custom => cases all
  | _ => rfl

theorem ownRuns_of_needsAll {rule : Rule ν} (all : rule.needsAll = true) (value : Value) (field : String) :
    rule.ownRuns value field = [] := by
  cases rule with
  | oneOfType | custom => cases all
  | _ => rfl

/-- A rule takes the notes of its own predicate and of the visits that take place. -/
theorem notes_check (rule : Rule ν) (value : Value) (field : String) :
    (rule.check value field).notes =
      (rule.ownRuns value field).flatMap (·.outcome.notes) ++
        (rule.examined value field).flatMap (·.verdict.notes) := by
  by_cases all : rule.needsAll = true
  · rw [ownRuns_of_needsAll all, examined, stopsAt_of_needsAll all]
    by_cases admitted : rule.admits value = true
    · rw [check_of_admits all admitted, Traced.notes_mapError, Traced.notes_firstFailure]
      rfl
    · have refused := Bool.eq_false_iff.mpr admitted
      obtain ⟨report, -, outcome⟩ := check_of_not_admits refused field
      rw [outcome, visits_of_not_admits refused]
      rfl
  · cases rule with
    | oneOfType alternatives =>
        rw [check_oneOfType, acceptedByAny_eq, examined, visits, throughFirst_map, List.flatMap_map]
        rfl
    | custom predicate => simp [Rule.check, ownRuns, examined, visits, throughFirst, Run.outcome]
    | _ => exact absurd rfl all

/-- A container that admits a value fails with the failure of the last part that it examined. -/
theorem last_examined_of_error {rule : Rule ν} (container : rule.isContainer = true) {value : Value}
    (admitted : rule.admits value = true) {field : String} {diagnostic : Diagnostic}
    (failure : (rule.check value field).result = .error diagnostic) :
    ∃ last cause, (rule.examined value field).getLast? = some last ∧
      last.verdict.result = .error cause ∧ diagnostic = rule.wrap field cause := by
  have all := needsAll_of_isContainer container
  rw [check_of_admits all admitted, Traced.mapError_error_iff] at failure
  obtain ⟨cause, first, rfl⟩ := failure
  obtain ⟨before, visit, after, order, passed, failed⟩ := Traced.firstFailure_error_iff.mp first
  refine ⟨visit, cause, ?_, failed, rfl⟩
  have untilHere : rule.examined value field = before ++ [visit] := by
    rw [examined, stopsAt_of_needsAll all, order]
    exact throughFirst_of_stop (fun earlier member => Traced.failed_eq_false_iff.mpr (passed earlier member))
      (Traced.failed_of_error failed)
  rw [untilHere, List.getLast?_concat]

end Rule

namespace Checker

theorem runs_mk (kind : Kind) (isRequired : Bool) (rule : Rule ν) (value : Value) (field : String) :
    (mk kind isRequired rule).runs value field =
      rule.ownRuns value field ++ (rule.examined value field).flatMap Visit.runs := by
  have attached : (rule.examined value field).attach.unattach.flatMap Visit.runs =
      (rule.examined value field).flatMap Visit.runs := by
    rw [List.unattach_attach]
  rw [runs, ← attached]
  exact congrArg _ (List.flatMap_subtype fun _ _ => rfl)

/-- The notes of a check are those of its runs. -/
theorem notes_check (checker : Checker ν) (value : Value) (field : String) :
    (checker.check value field).notes = (checker.runs value field).flatMap (·.outcome.notes) := by
  induction checker using tree_induction generalizing value field with
  | step kind isRequired rule ih =>
    have inside : ∀ visit ∈ rule.examined value field,
        visit.verdict.notes = visit.runs.flatMap (·.outcome.notes) := by
      intro visit member
      rw [visit.notes_verdict, Visit.runs]
      cases visit.value? with
      | none => rfl
      | some part => exact ih visit.checker (Rule.checker_mem_parts_of_examined member) part visit.field
    calc ((mk kind isRequired rule).check value field).notes
      _ = (rule.ownRuns value field).flatMap (·.outcome.notes) ++
            (rule.examined value field).flatMap (·.verdict.notes) := rule.notes_check value field
      _ = (rule.ownRuns value field).flatMap (·.outcome.notes) ++
            (rule.examined value field).flatMap fun visit => visit.runs.flatMap (·.outcome.notes) := by
        rw [List.flatMap_congr inside]
      _ = ((mk kind isRequired rule).runs value field).flatMap (·.outcome.notes) := by
        rw [runs_mk, List.flatMap_append, List.flatMap_assoc]

/-- A visit takes the notes of its runs. -/
theorem notes_visit (visit : Visit ν) : visit.verdict.notes = visit.runs.flatMap (·.outcome.notes) := by
  rw [visit.notes_verdict, Visit.runs]
  cases visit.value? with
  | none => rfl
  | some part => exact visit.checker.notes_check part visit.field

/-- Nothing is run inside of a value that a container does not admit. -/
theorem runs_of_not_admits {checker : Checker ν} (container : checker.rule.isContainer = true) {value : Value}
    (refused : checker.rule.admits value = false) (field : String) : checker.runs value field = [] := by
  obtain ⟨kind, isRequired, rule⟩ := checker
  have all : rule.needsAll = true := Rule.needsAll_of_isContainer container
  have unseen : rule.visits value field = [] := Rule.visits_of_not_admits refused field
  rw [runs_mk, Rule.ownRuns_of_needsAll all, Rule.examined, unseen]
  rfl

/--
The notes of a validation are those of its runs, in order: predicates that note their calls leave the list of them. A
container runs nothing in a value that it does not admit, and fails on the parts of another with the failure of the
last one that it examined.
-/
theorem validate_order (checker : Checker ν) (value? : Option Value) (field : String) :
    (checker.validate value? field).notes =
        (Visit.runs ⟨checker, value?, field⟩).flatMap (·.outcome.notes) ∧
      ∀ value, value? = some value → checker.rule.isContainer = true →
        (checker.rule.admits value = false → checker.runs value field = []) ∧
          (checker.rule.admits value = true → ∀ diagnostic,
            (checker.validate value? field).result = .error diagnostic →
              ∃ last cause, (checker.rule.examined value field).getLast? = some last ∧
                last.verdict.result = .error cause ∧ diagnostic = checker.rule.wrap field cause) := by
  constructor
  · have notes := Visit.notes_verdict ⟨checker, value?, field⟩
    cases value? with
    | none => exact notes
    | some value => exact notes.trans (checker.notes_check value field)
  · rintro value rfl container
    constructor
    · intro refused
      exact runs_of_not_admits container refused field
    · intro admitted diagnostic failure
      obtain ⟨kind, isRequired, rule⟩ := checker
      exact Rule.last_examined_of_error container admitted failure

/-- Elements other than null, each of which is noted with its field. -/
def presentElements : Checker (Value × String) :=
  .arrayOf (.custom fun value field =>
    match value with
    | .null => ⟨.error (.custom field "null"), [(value, field)]⟩
    | _ => ⟨.ok (), [(value, field)]⟩)

theorem validate_order_presentElements :
    (presentElements.validate (some (.array [.bool true, .null, .bool false])) "xs").notes =
        [(.bool true, "xs.0"), (.null, "xs.1")] ∧
      ∃ last cause,
        (presentElements.rule.examined (.array [.bool true, .null, .bool false]) "xs").getLast? = some last ∧
          last.verdict.result = .error cause ∧
          .element "xs" (.custom "xs.1" "null") = presentElements.rule.wrap "xs" cause := by
  obtain ⟨-, parts⟩ :=
    presentElements.validate_order (some (.array [.bool true, .null, .bool false])) "xs"
  exact ⟨rfl, (parts _ rfl rfl).2 rfl _ rfl⟩

end Checker

end RecordCheck
