import RecordCheck.Proofs.Checker.Order
import RecordCheck.Proofs.Checker.Parallel
import RecordCheck.Proofs.Record.Deduplicated

/-!
# Checks that agree

Two visits agree if they come to equal results by equal runs of the predicates of the caller. Two rules whose tests,
reports and wraps are equal and whose visits agree one by one can be put in place of each other: their checks agree
(`Rule.Agree.check_eq`, `Rule.Agree.runs_eq`). So a rule for all fields of an object is the shape that declares
the object's own names (`Checker.objectOf_eq_shape`).
-/

namespace RecordCheck

variable {ν : Type}

/-- Visits that come to one result by the same runs. -/
structure Visit.Agree (visit visit' : Visit ν) : Prop where
  result : visit.verdict.result = visit'.verdict.result
  runs : visit.runs = visit'.runs

theorem Visit.Agree.refl (visit : Visit ν) : visit.Agree visit := ⟨rfl, rfl⟩

theorem Visit.Agree.failed_eq {visit visit' : Visit ν} (agree : visit.Agree visit') :
    visit.verdict.failed = visit'.verdict.failed :=
  Traced.failed_eq_of_parallel (Parallel.of_eq agree.result)

@[ext]
theorem Traced.ext {α : Type} {step step' : Traced ν α} (result : step.result = step'.result)
    (notes : step.notes = step'.notes) : step = step' := by
  cases step
  cases step'
  cases result
  cases notes
  rfl

/-- Visits that both pass or are both rejected, after the same runs. -/
structure Visit.RunAlike (visit visit' : Visit ν) : Prop where
  failed : visit.verdict.failed = visit'.verdict.failed
  runs : visit.runs = visit'.runs

theorem Visit.Agree.runAlike {visit visit' : Visit ν} (agree : visit.Agree visit') : visit.RunAlike visit' :=
  ⟨agree.failed_eq, agree.runs⟩

/-- Runs that end at the same places look at visits that are alike. -/
private theorem flatMap_runs_throughFirst {stop stop' : Visit ν → Bool} {visits visits' : List (Visit ν)}
    (alike : List.Forall₂ Visit.RunAlike visits visits')
    (stops : ∀ visit visit', Visit.RunAlike visit visit' → stop visit = stop' visit') :
    (throughFirst stop visits).flatMap Visit.runs = (throughFirst stop' visits').flatMap Visit.runs := by
  induction alike with
  | nil => rfl
  | cons here later ih =>
      simp only [throughFirst, List.flatMap_cons, here.runs, stops _ _ here]
      split
      · rfl
      · rw [ih]

namespace Rule

/-- Rules of the library that test, report and wrap alike at a value, and whose visits agree one by one. -/
structure Agree (rule rule' : Rule ν) (value : Value) (field : String) : Prop where
  own : rule.isCustom = false
  own' : rule'.isCustom = false
  needsAll : rule.needsAll = rule'.needsAll
  admits : rule.admits value = rule'.admits value
  reports : ∀ report report', Reports value field rule report → Reports value field rule' report' → report = report'
  wrap : rule.wrap field = rule'.wrap field
  visits : List.Forall₂ Visit.Agree (rule.visits value field) (rule'.visits value field)

theorem ownRuns_of_not_custom {rule : Rule ν} (own : rule.isCustom = false) (value : Value) (field : String) :
    rule.ownRuns value field = [] := by
  cases rule with
  | custom => cases own
  | _ => rfl

section RunAlike

variable {rule rule' : Rule ν} {value value' : Value} {field field' : String}

theorem stopsAt_eq_of_runAlike (own : rule.isCustom = false) (own' : rule'.isCustom = false)
    (needs : rule.needsAll = rule'.needsAll) {visit visit' : Visit ν} (alike : visit.RunAlike visit') :
    rule.stopsAt visit = rule'.stopsAt visit' := by
  cases all : rule.needsAll with
  | true =>
      have all' : rule'.needsAll = true := needs.symm.trans all
      rw [stopsAt_of_needsAll all, stopsAt_of_needsAll all']
      exact alike.failed
  | false =>
      obtain ⟨alternatives, rfl⟩ := eq_oneOfType_of_not_needsAll own all
      obtain ⟨alternatives', rfl⟩ := eq_oneOfType_of_not_needsAll own' (needs.symm.trans all)
      simp only [stopsAt, alike.failed]

/-- Rules that end at the same places and whose visits are alike make the same runs, whatever their labels. -/
theorem runs_eq_of_runAlike (own : rule.isCustom = false) (own' : rule'.isCustom = false)
    (needs : rule.needsAll = rule'.needsAll)
    (visits : List.Forall₂ Visit.RunAlike (rule.visits value field) (rule'.visits value' field'))
    (kind kind' : Kind) (isRequired isRequired' : Bool) :
    (Checker.mk kind isRequired rule).runs value field = (Checker.mk kind' isRequired' rule').runs value' field' := by
  rw [Checker.runs_mk, Checker.runs_mk, ownRuns_of_not_custom own, ownRuns_of_not_custom own']
  exact congrArg _ (flatMap_runs_throughFirst visits fun _ _ => stopsAt_eq_of_runAlike own own' needs)

end RunAlike

namespace Agree

variable {rule rule' : Rule ν} {value : Value} {field : String}

/-- Rules that agree make the same runs. -/
theorem runs_eq (agree : rule.Agree rule' value field) (kind kind' : Kind) (isRequired isRequired' : Bool) :
    (Checker.mk kind isRequired rule).runs value field = (Checker.mk kind' isRequired' rule').runs value field :=
  runs_eq_of_runAlike agree.own agree.own' agree.needsAll
    (agree.visits.imp fun _ _ visits => visits.runAlike) kind kind' isRequired isRequired'

/-- Rules that agree come to the same result with the same notes. -/
theorem check_eq (agree : rule.Agree rule' value field) : rule.check value field = rule'.check value field := by
  have result : (rule.check value field).result = (rule'.check value field).result := by
    apply Parallel.eq
    apply parallel_check agree.own agree.own' agree.needsAll agree.admits agree.reports
    · rintro cause cause' rfl
      rw [agree.wrap]
    · exact agree.visits.imp fun visit visit' visits => Parallel.of_eq visits.result
  -- the notes are those of the runs
  have notes : (rule.check value field).notes = (rule'.check value field).notes := by
    have noted := (Checker.mk .any false rule).notes_check value field
    rw [agree.runs_eq .any .any false false, ← Checker.notes_check] at noted
    exact noted
  exact Traced.ext result notes

end Agree

end Rule

namespace Checker

/-- The checker, declared under each of the names. -/
def under (checker : Checker ν) (names : List String) : List (String × Checker ν) :=
  names.map fun name => (name, checker)

theorem keysOf_under (checker : Checker ν) (names : List String) : keysOf (checker.under names) = names := by
  simp [under, keysOf, Function.comp_def]

/-- A look-up of an object's own names finds its fields, each under its name. -/
theorem visits_objectOf (element : Checker ν) {value : Value} (distinct : (keysOf value.entries).Nodup)
    (field : String) :
    (Rule.objectOf element).visits value field =
      (Rule.shape (element.under (keysOf value.entries))).visits value field := by
  simp only [Rule.visits]
  split
  · rw [under, keysOf, List.map_map, List.map_map]
    apply List.map_congr_left
    rintro ⟨key, item⟩ member
    simp only [Function.comp_apply, lookup_of_mem distinct member]
  · rename_i other
    cases value with
    | object => exact absurd rfl other
    | _ => rfl

theorem agree_objectOf (element : Checker ν) {value : Value} (distinct : (keysOf value.entries).Nodup)
    (field : String) :
    (Rule.objectOf element).Agree (Rule.shape (element.under (keysOf value.entries))) value field where
  own := rfl
  own' := rfl
  needsAll := rfl
  admits := rfl
  wrap := rfl
  reports := by
    intro report report' reported reported'
    cases reported
    cases reported'
    rfl
  visits := by
    rw [visits_objectOf element distinct field]
    exact List.forall₂_same.mpr fun visit _ => .refl visit

/--
To ask the same of all fields of a value is to declare the names that the value has, in its order: the results are
equal, and so are the runs. A value that is no object has no names, and both refuse it in the same words.
-/
theorem objectOf_eq_shape (element : Checker ν) {value : Value} (distinct : (keysOf value.entries).Nodup)
    (field : String) :
    (objectOf element).check value field = (shape (element.under (keysOf value.entries))).check value field ∧
      (objectOf element).runs value field = (shape (element.under (keysOf value.entries))).runs value field := by
  have declared : collect (element.under (keysOf value.entries)) = element.under (keysOf value.entries) := by
    apply collect_of_nodup
    rwa [keysOf_under]
  have agree := agree_objectOf element distinct field
  rw [shape, declared]
  exact ⟨agree.check_eq, agree.runs_eq .objectOf .shape false false⟩

/-- Sizes that are numbers; each is noted with its field. -/
def notedSize : Checker (Value × String) :=
  .custom fun value field => ⟨((number : Checker Unit).check value field).result, [(value, field)]⟩

/-- The second size is not a number, and the third is not looked at. -/
def sizes : Value := .plain [("top", .ofInt 1), ("left.0", .null), ("top.0", .ofInt 3)]

theorem objectOf_eq_shape_sizes :
    (keysOf sizes.entries).Nodup ∧
      (objectOf notedSize).check sizes "box" =
        (shape [("top", notedSize), ("left.0", notedSize), ("top.0", notedSize)]).check sizes "box" ∧
      ((shape [("top", notedSize), ("left.0", notedSize), ("top.0", notedSize)]).check sizes "box").notes =
        [(.ofInt 1, "box.top"), (.null, "box.left.0")] := by
  have distinct : (keysOf sizes.entries).Nodup := by decide
  exact ⟨distinct, (objectOf_eq_shape notedSize distinct "box").1, rfl⟩

end Checker

end RecordCheck
