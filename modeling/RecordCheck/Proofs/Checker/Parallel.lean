import Mathlib.Data.List.Forall2
import RecordCheck.Proofs.Checker.Visit

/-!
# Checks in parallel

Two results are parallel under a relation of failures if both are successes, or both are failures that are related.
A run up to the first failure carries this from its steps to the whole (`Traced.parallel_firstFailure`). Hence two
rules that test their values alike, report alike and make visits in parallel come to parallel results
(`Rule.parallel_check`): of two checks that are to be compared only these parts have to be looked at.
-/

namespace RecordCheck

variable {ν ν' α β ε δ ε' δ' : Type}

/-- Both results are successes, or both are failures that are related. -/
inductive Parallel (R : ε → δ → Prop) : Except ε Unit → Except δ Unit → Prop where
  | ok : Parallel R (.ok ()) (.ok ())
  | error {e : ε} {d : δ} (related : R e d) : Parallel R (.error e) (.error d)

namespace Parallel

variable {R : ε → δ → Prop} {left : Except ε Unit} {right : Except δ Unit}

theorem ok_or_error (parallel : Parallel R left right) :
    left = .ok () ∧ right = .ok () ∨ ∃ e d, left = .error e ∧ right = .error d ∧ R e d := by
  cases parallel with
  | ok => exact .inl ⟨rfl, rfl⟩
  | error related => exact .inr ⟨_, _, rfl, rfl, related⟩

theorem ok_iff (parallel : Parallel R left right) : left = .ok () ↔ right = .ok () := by
  cases parallel with
  | ok => exact iff_of_true rfl rfl
  | error => exact iff_of_false nofun nofun

theorem error_of_error (parallel : Parallel R left right) {e : ε} (failure : left = .error e) :
    ∃ d, right = .error d ∧ R e d := by
  cases parallel with
  | ok => cases failure
  | error related =>
      cases failure
      exact ⟨_, rfl, related⟩

/-- Results that are parallel under equality are equal. -/
theorem eq {left right : Except ε Unit} (parallel : Parallel Eq left right) : left = right := by
  cases parallel with
  | ok => rfl
  | error related => rw [related]

theorem of_eq {left right : Except ε Unit} (same : left = right) : Parallel Eq left right := by
  subst same
  cases left with
  | ok => exact .ok
  | error => exact .error rfl

theorem mapError {S : ε' → δ' → Prop} {f : ε → ε'} {g : δ → δ'} (parallel : Parallel R left right)
    (carries : ∀ e d, R e d → S (f e) (g d)) : Parallel S (left.mapError f) (right.mapError g) := by
  cases parallel with
  | ok => exact .ok
  | error related => exact .error (carries _ _ related)

theorem symm {S : δ → ε → Prop} (parallel : Parallel R left right) (turns : ∀ e d, R e d → S d e) :
    Parallel S right left := by
  cases parallel with
  | ok => exact .ok
  | error related => exact .error (turns _ _ related)

theorem trans {S : δ → ε' → Prop} {T : ε → ε' → Prop} {last : Except ε' Unit} (first : Parallel R left right)
    (second : Parallel S right last) (composes : ∀ e d e', R e d → S d e' → T e e') : Parallel T left last := by
  cases first with
  | ok =>
      cases second with
      | ok => exact .ok
  | error related =>
      cases second with
      | error related' => exact .error (composes _ _ _ related related')

end Parallel

namespace Traced

theorem failed_eq_of_parallel {R : ε → δ → Prop} {step : Traced ν (Except ε Unit)}
    {step' : Traced ν' (Except δ Unit)} (parallel : Parallel R step.result step'.result) :
    step.failed = step'.failed := by
  rcases parallel.ok_or_error with ⟨passed, passed'⟩ | ⟨e, d, failure, failure', -⟩
  · rw [failed_eq_false_iff.mpr passed, failed_eq_false_iff.mpr passed']
  · rw [failed_of_error failure, failed_of_error failure']

/-- Runs of parallel steps are parallel. -/
theorem parallel_firstFailure {R : ε → δ → Prop} {step : α → Traced ν (Except ε Unit)}
    {step' : β → Traced ν' (Except δ Unit)} {items : List α} {items' : List β}
    (steps : List.Forall₂ (fun item item' => Parallel R (step item).result (step' item').result) items items') :
    Parallel R (firstFailure step items).result (firstFailure step' items').result := by
  induction steps with
  | nil => exact .ok
  | cons here later ih =>
      simp only [firstFailure, andThen]
      rcases here.ok_or_error with ⟨passed, passed'⟩ | ⟨e, d, failure, failure', related⟩
      · rw [passed, passed']
        exact ih
      · simp only [failure, failure']
        exact .error related

end Traced

/-- Visits that come to parallel results. -/
def Visit.Parallel (R : Diagnostic → Diagnostic → Prop) (visit : Visit ν) (visit' : Visit ν') : Prop :=
  RecordCheck.Parallel R visit.verdict.result visit'.verdict.result

namespace Rule

/-- Whether some visit of the rule accepts. -/
def someAccepts (rule : Rule ν) (value : Value) (field : String) : Bool :=
  (rule.visits value field).any fun visit => !visit.verdict.failed

theorem eq_oneOfType_of_not_needsAll {rule : Rule ν} (own : rule.isCustom = false)
    (any : rule.needsAll = false) : ∃ alternatives, rule = oneOfType alternatives := by
  cases rule with
  | oneOfType alternatives => exact ⟨alternatives, rfl⟩
  | custom => cases own
  | _ => cases any

theorem check_oneOfType_of_someAccepts {alternatives : List (Checker ν)} {value : Value} {field : String}
    (accepted : (oneOfType alternatives).someAccepts value field = true) :
    ((oneOfType alternatives).check value field).result = .ok () := by
  rw [someAccepts, visits, List.any_map] at accepted
  rw [check_oneOfType]
  exact if_pos accepted

theorem check_oneOfType_of_not_someAccepts {alternatives : List (Checker ν)} {value : Value} {field : String}
    (refused : (oneOfType alternatives).someAccepts value field = false) :
    ∃ report, Reports value field (oneOfType alternatives) report ∧
      ((oneOfType alternatives).check value field).result = .error report := by
  rw [someAccepts, visits, List.any_map] at refused
  refine ⟨_, .oneOfType alternatives, ?_⟩
  rw [check_oneOfType]
  exact if_neg (Bool.eq_false_iff.mp refused)

theorem someAccepts_eq_of_parallel {rule : Rule ν} {rule' : Rule ν'} {value value' : Value}
    {field field' : String} {R : Diagnostic → Diagnostic → Prop}
    (visits : List.Forall₂ (Visit.Parallel R) (rule.visits value field) (rule'.visits value' field')) :
    rule.someAccepts value field = rule'.someAccepts value' field' := by
  unfold someAccepts
  generalize rule.visits value field = left at visits
  generalize rule'.visits value' field' = right at visits
  induction visits with
  | nil => rfl
  | cons here later ih => rw [List.any_cons, List.any_cons, ih, Traced.failed_eq_of_parallel here]

/--
Checks by two rules that no caller wrote are parallel if the rules admit their values alike, report alike, wrap alike
and make visits in parallel.
-/
theorem parallel_check {rule : Rule ν} {rule' : Rule ν'} {value value' : Value} {field field' : String}
    {R : Diagnostic → Diagnostic → Prop} (own : rule.isCustom = false) (own' : rule'.isCustom = false)
    (needs : rule.needsAll = rule'.needsAll) (admits : rule.admits value = rule'.admits value')
    (reports : ∀ report report', Reports value field rule report → Reports value' field' rule' report' →
      R report report')
    (wraps : ∀ cause cause', R cause cause' → R (rule.wrap field cause) (rule'.wrap field' cause'))
    (visits : List.Forall₂ (Visit.Parallel R) (rule.visits value field) (rule'.visits value' field')) :
    Parallel R (rule.check value field).result (rule'.check value' field').result := by
  cases all : rule.needsAll with
  | true =>
      have all' : rule'.needsAll = true := needs.symm.trans all
      cases admitted : rule.admits value with
      | true =>
          have admitted' : rule'.admits value' = true := admits.symm.trans admitted
          rw [check_of_admits all admitted, check_of_admits all' admitted']
          exact (Traced.parallel_firstFailure visits).mapError wraps
      | false =>
          have refused' : rule'.admits value' = false := admits.symm.trans admitted
          obtain ⟨report, reported, outcome⟩ := check_of_not_admits admitted field
          obtain ⟨report', reported', outcome'⟩ := check_of_not_admits refused' field'
          rw [outcome, outcome']
          exact .error (reports report report' reported reported')
  | false =>
      obtain ⟨alternatives, rfl⟩ := eq_oneOfType_of_not_needsAll own all
      obtain ⟨alternatives', rfl⟩ := eq_oneOfType_of_not_needsAll own' (needs.symm.trans all)
      have accepts := someAccepts_eq_of_parallel visits
      cases accepted : (oneOfType alternatives).someAccepts value field with
      | true =>
          have accepted' := accepts.symm.trans accepted
          rw [check_oneOfType_of_someAccepts accepted, check_oneOfType_of_someAccepts accepted']
          exact .ok
      | false =>
          have refused' := accepts.symm.trans accepted
          obtain ⟨report, reported, outcome⟩ := check_oneOfType_of_not_someAccepts accepted
          obtain ⟨report', reported', outcome'⟩ := check_oneOfType_of_not_someAccepts refused'
          rw [outcome, outcome']
          exact .error (reports report report' reported reported')

end Rule

/-- Two absent values at related fields are judged alike. -/
theorem parallel_checkAbsent {R : Diagnostic → Diagnostic → Prop} (isRequired : Bool) {field field' : String}
    (related : R (.missing field) (.missing field')) :
    Parallel R (checkAbsent isRequired field : Traced ν Verdict).result
      (checkAbsent isRequired field' : Traced ν' Verdict).result := by
  cases isRequired with
  | false => exact .ok
  | true => exact .error related

end RecordCheck
