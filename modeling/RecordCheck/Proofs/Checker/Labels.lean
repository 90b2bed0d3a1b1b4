import RecordCheck.Proofs.Checker.Agreement

/-!
# Labels of checkers

The kind of a checker is a label. `Checker.unlabelled` is the tree with the labels taken off, so two trees differ in
their labels alone if they are equal without them. A label shows in one place only: the report of a union names its
alternatives by their labels, and `Diagnostic.unnamed` leaves these names out. A tree and the tree without labels make
visits that are alike (`Rule.visits_unlabelled`), hence come to the same result but for these names, by the same runs
(`Checker.validate_relabelled`).
-/

namespace RecordCheck

variable {ν : Type}

namespace Diagnostic

/-- The diagnostic with blanks in place of the names that unions list. -/
def unnamed : Diagnostic → Diagnostic
  | noMatch field allowed actual => noMatch field (allowed.map fun _ => "") actual
  | element field cause => element field cause.unnamed
  | nested path cause => nested path cause.unnamed
  | leaf => leaf

theorem asNested_unnamed (diagnostic : Diagnostic) : diagnostic.unnamed.asNested = diagnostic.asNested.unnamed := by
  cases diagnostic with
  | _ => rfl

theorem chain_unnamed (diagnostic : Diagnostic) : diagnostic.unnamed.chain = diagnostic.chain.map unnamed := by
  induction diagnostic with
  | element field cause ih => simp only [unnamed, chain, ih, List.map_cons]
  | nested path cause ih => simp only [unnamed, chain, ih, List.map_cons]
  | _ => rfl

theorem code_rootCause_unnamed (diagnostic : Diagnostic) :
    diagnostic.unnamed.rootCause.code = diagnostic.rootCause.code := by
  induction diagnostic with
  | element field cause ih => exact ih
  | nested path cause ih => exact ih
  | _ => rfl

/-- Only the report of a union lists names that are left out. -/
theorem unnamed_of_rootCause {diagnostic : Diagnostic} (other : diagnostic.rootCause.code ≠ .noMatch) :
    diagnostic.unnamed = diagnostic := by
  induction diagnostic with
  | element field cause ih => rw [unnamed, ih other]
  | nested path cause ih => rw [unnamed, ih other]
  | noMatch => exact absurd rfl other
  | _ => rfl

/--
Diagnostics whose chains are equal link by link but for the names that a union lists, and equal altogether if no union
is their root cause.
-/
structure SameButNames (diagnostic diagnostic' : Diagnostic) : Prop where
  links : List.Forall₂ (fun link link' => link.unnamed = link'.unnamed) diagnostic.chain diagnostic'.chain
  same : diagnostic.rootCause.code ≠ .noMatch → diagnostic = diagnostic'

theorem sameButNames_of_unnamed {diagnostic diagnostic' : Diagnostic}
    (equal : diagnostic.unnamed = diagnostic'.unnamed) : diagnostic.SameButNames diagnostic' where
  links := by
    have chains := congrArg chain equal
    rw [chain_unnamed, chain_unnamed, ← List.forall₂_eq_eq_eq] at chains
    exact List.forall₂_map_right_iff.mp (List.forall₂_map_left_iff.mp chains)
  same := by
    intro other
    have other' : diagnostic'.rootCause.code ≠ .noMatch := by
      rwa [← code_rootCause_unnamed, ← equal, code_rootCause_unnamed]
    rwa [unnamed_of_rootCause other, unnamed_of_rootCause other'] at equal

end Diagnostic

mutual

/-- The tree with one label for all checkers. -/
def Checker.unlabelled : Checker ν → Checker ν
  | .mk _ isRequired rule => .mk .any isRequired rule.unlabelled

/-- The rule with one label for all checkers in it. -/
def Rule.unlabelled : Rule ν → Rule ν
  | .arrayOf element => .arrayOf element.unlabelled
  | .objectOf element => .objectOf element.unlabelled
  | .oneOfType alternatives => .oneOfType (unlabelledAll alternatives)
  | .shape fields => .shape (unlabelledFields fields)
  | rule => rule

/-- The alternatives of a union with one label for all checkers in them. -/
def unlabelledAll : List (Checker ν) → List (Checker ν)
  | [] => []
  | checker :: rest => checker.unlabelled :: unlabelledAll rest

/-- The declared fields of a shape with one label for all checkers in them. -/
def unlabelledFields : List (String × Checker ν) → List (String × Checker ν)
  | [] => []
  | (name, checker) :: rest => (name, checker.unlabelled) :: unlabelledFields rest

end

theorem unlabelledAll_eq_map (checkers : List (Checker ν)) :
    unlabelledAll checkers = checkers.map Checker.unlabelled := by
  induction checkers with
  | nil => rfl
  | cons checker rest ih => rw [unlabelledAll, ih, List.map_cons]

theorem unlabelledFields_eq_map (fields : List (String × Checker ν)) :
    unlabelledFields fields = fields.map fun field => (field.1, field.2.unlabelled) := by
  induction fields with
  | nil => rfl
  | cons field rest ih => rw [unlabelledFields, ih, List.map_cons]

/-- Without its labels a checker is applied to the same part at the same field. -/
def Visit.unlabelled (visit : Visit ν) : Visit ν := { visit with checker := visit.checker.unlabelled }

namespace Rule

variable {rule : Rule ν} {value : Value} {field : String}

theorem unlabelled_of_custom (own : rule.isCustom = true) : rule.unlabelled = rule := by
  cases rule with
  | custom => rfl
  | _ => cases own

theorem isCustom_unlabelled (rule : Rule ν) : rule.unlabelled.isCustom = rule.isCustom := by
  cases rule with
  | _ => rfl

theorem needsAll_unlabelled (rule : Rule ν) : rule.unlabelled.needsAll = rule.needsAll := by
  cases rule with
  | _ => rfl

theorem admits_unlabelled (rule : Rule ν) (value : Value) : rule.unlabelled.admits value = rule.admits value := by
  cases rule with
  | _ => rfl

theorem wrap_unlabelled (rule : Rule ν) (field : String) : rule.unlabelled.wrap field = rule.wrap field := by
  cases rule with
  | _ => rfl

theorem visits_unlabelled (rule : Rule ν) (value : Value) (field : String) :
    rule.unlabelled.visits value field = (rule.visits value field).map Visit.unlabelled := by
  cases rule with
  | arrayOf | objectOf =>
      simp only [unlabelled, visits, List.map_map]
      rfl
  | oneOfType alternatives =>
      simp only [unlabelled, visits, unlabelledAll_eq_map, List.map_map]
      rfl
  | shape fields =>
      simp only [unlabelled, visits, unlabelledFields_eq_map]
      split
      · simp only [List.map_map]
        rfl
      · rfl
  | _ => rfl

/-- What a rule hands on from a visit names nothing of its own. -/
theorem unnamed_wrap (rule : Rule ν) (field : String) {cause cause' : Diagnostic}
    (equal : cause.unnamed = cause'.unnamed) :
    (rule.wrap field cause).unnamed = (rule.wrap field cause').unnamed := by
  cases rule with
  | arrayOf => exact congrArg (Diagnostic.element field) equal
  | _ =>
      simp only [wrap, ← Diagnostic.asNested_unnamed]
      rw [equal]

/-- A union names as many alternatives without their labels as with them. -/
theorem Reports.unnamed_eq {report report' : Diagnostic} (reported : Reports value field rule.unlabelled report)
    (reported' : Reports value field rule report') : report.unnamed = report'.unnamed := by
  cases reported' with
  | oneOfType alternatives =>
      cases reported
      simp only [Diagnostic.unnamed, unlabelledAll_eq_map, List.map_map]
      rfl
  | _ =>
      cases reported
      rfl

end Rule

/-- Visits come to results that are equal but for the names that unions list, by the same runs. -/
structure Visit.AgreeUnnamed (visit visit' : Visit ν) : Prop where
  result : visit.Parallel (InvImage Eq Diagnostic.unnamed) visit'
  runs : visit.runs = visit'.runs

theorem Visit.AgreeUnnamed.runAlike {visit visit' : Visit ν} (agree : visit.AgreeUnnamed visit') :
    visit.RunAlike visit' :=
  ⟨Traced.failed_eq_of_parallel agree.result, agree.runs⟩

theorem Visit.AgreeUnnamed.refl (visit : Visit ν) : visit.AgreeUnnamed visit := by
  refine ⟨?_, rfl⟩
  unfold Visit.Parallel
  cases visit.verdict.result with
  | ok => exact .ok
  | error => exact .error rfl

namespace Checker

/-- A check without the labels comes to the same result, but for the names that unions list, by the same runs. -/
theorem agreeUnnamed_unlabelled (checker : Checker ν) (value? : Option Value) (field : String) :
    Visit.AgreeUnnamed ⟨checker.unlabelled, value?, field⟩ ⟨checker, value?, field⟩ := by
  induction checker using tree_induction generalizing value? field with
  | step kind isRequired rule ih =>
    cases value? with
    | none => exact ⟨parallel_checkAbsent isRequired rfl, rfl⟩
    | some value =>
      cases own : rule.isCustom with
      | true =>
          have same : (mk kind isRequired rule).unlabelled = mk .any isRequired rule := by
            rw [unlabelled, Rule.unlabelled_of_custom own]
          obtain ⟨result, -⟩ := Visit.AgreeUnnamed.refl ⟨mk kind isRequired rule, some value, field⟩
          rw [same]
          refine ⟨result, ?_⟩
          simp only [Visit.runs, runs_mk]
      | false =>
          have own' := (Rule.isCustom_unlabelled rule).trans own
          have needs := Rule.needsAll_unlabelled rule
          have visits : List.Forall₂ Visit.AgreeUnnamed (rule.unlabelled.visits value field)
              (rule.visits value field) := by
            rw [Rule.visits_unlabelled]
            refine List.forall₂_map_left_iff.mpr (List.forall₂_same.mpr ?_)
            intro visit member
            exact ih visit.checker (Rule.checker_mem_parts member) visit.value? visit.field
          constructor
          · apply Rule.parallel_check own' own needs (Rule.admits_unlabelled rule value)
            · intro report report' reported reported'
              exact reported.unnamed_eq reported'
            · intro cause cause' equal
              rw [Rule.wrap_unlabelled]
              exact Rule.unnamed_wrap rule field equal
            · exact visits.imp fun _ _ agree => agree.result
          · exact Rule.runs_eq_of_runAlike own' own needs (visits.imp fun _ _ agree => agree.runAlike) _ _ _ _

/--
Trees that differ in their labels alone validate alike, a value that is present or absent: both accept, or both reject
with chains that are equal link by link but for the names that a union lists; and both call the same predicates with
the same values at the same fields in the same order, so that they take the same notes.
-/
theorem validate_relabelled {checker checker' : Checker ν} (same : checker.unlabelled = checker'.unlabelled)
    (value? : Option Value) (field : String) :
    Parallel Diagnostic.SameButNames (checker.validate value? field).result (checker'.validate value? field).result ∧
      Visit.runs ⟨checker, value?, field⟩ = Visit.runs ⟨checker', value?, field⟩ ∧
      (checker.validate value? field).notes = (checker'.validate value? field).notes := by
  -- both are compared with the tree without labels
  have bare := agreeUnnamed_unlabelled checker value? field
  have bare' := agreeUnnamed_unlabelled checker' value? field
  rw [← same] at bare'
  have runs : Visit.runs ⟨checker, value?, field⟩ = Visit.runs ⟨checker', value?, field⟩ :=
    bare.runs.symm.trans bare'.runs
  refine ⟨?_, runs, ?_⟩
  · have turned : Parallel (InvImage Eq Diagnostic.unnamed) (checker.validate value? field).result
        (checker.unlabelled.validate value? field).result := bare.result.symm fun _ _ equal => equal.symm
    apply turned.trans bare'.result
    intro diagnostic middle diagnostic' equal equal'
    exact Diagnostic.sameButNames_of_unnamed (Eq.trans equal equal')
  · have notes := notes_visit ⟨checker, value?, field⟩
    rw [runs, ← notes_visit] at notes
    exact notes

/-- No amount is the right one; each is noted with its field. -/
def refusedAmount : Checker String := .custom fun _ field => ⟨.error (.custom field "no amount"), [field]⟩

/-- Prices, each of them a number or amounts under the names of currencies. -/
def prices : Checker String := .arrayOf (.oneOfType [.number, .objectOf refusedAmount])

/-- The same rules under other labels. -/
def relabelledPrices : Checker String :=
  .new .shape (.arrayOf (.new .any (.oneOfType
    [.new .func (.typed .number), .new .string (.objectOf (.new .number refusedAmount.rule))])))

/-- The second price has an amount. -/
def offer : Value := .array [.ofInt 3, .plain [("EUR", .ofInt 5)]]

theorem validate_relabelled_prices :
    prices.unlabelled = relabelledPrices.unlabelled ∧
      (prices.validate (some offer) "p").result =
        .error (.element "p" (.noMatch "p.1" ["number", "objectOf"] "object")) ∧
      (relabelledPrices.validate (some offer) "p").result =
        .error (.element "p" (.noMatch "p.1" ["function", "string"] "object")) ∧
      Parallel Diagnostic.SameButNames (prices.validate (some offer) "p").result
        (relabelledPrices.validate (some offer) "p").result ∧
      (prices.validate (some offer) "p").notes = (relabelledPrices.validate (some offer) "p").notes ∧
      (prices.validate (some offer) "p").notes = ["p.1.EUR"] := by
  have same : prices.unlabelled = relabelledPrices.unlabelled := rfl
  obtain ⟨results, -, notes⟩ := validate_relabelled same (some offer) "p"
  exact ⟨same, rfl, rfl, results, notes, rfl⟩

end Checker

end RecordCheck
