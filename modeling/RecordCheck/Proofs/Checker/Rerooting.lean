import RecordCheck.Proofs.Checker.Parallel

/-!
# Checks at a longer field

A field enters a check only as the beginning of the fields in its diagnostics. The same check with a text put in front
of its field therefore comes to the same verdict, with the text in front of the field or path of every link of the
diagnostic (`Checker.check_rerooted`, `Checker.validate_rerooted`).
-/

namespace RecordCheck

variable {ν : Type}

/-- The diagnostic with a text in front of the field or path of every link. -/
def Diagnostic.rerooted (root : String) : Diagnostic → Diagnostic
  | missing field => missing (root ++ field)
  | typeMismatch field expected actual => typeMismatch (root ++ field) expected actual
  | notAnArray field actual => notAnArray (root ++ field) actual
  | element field cause => element (root ++ field) (cause.rerooted root)
  | nested path cause => nested (root ++ path) (cause.rerooted root)
  | notAllowed field allowed actual => notAllowed (root ++ field) allowed actual
  | noMatch field allowed actual => noMatch (root ++ field) allowed actual
  | notAnInstance field expected actual => notAnInstance (root ++ field) expected actual
  | custom field message => custom (root ++ field) message

/-- The second diagnostic is the first one with the text in front of all its fields. -/
def Diagnostic.Rerooted (root : String) (diagnostic diagnostic' : Diagnostic) : Prop :=
  diagnostic' = diagnostic.rerooted root

theorem child_rerooted (root field step : String) : child (root ++ field) step = root ++ child field step := by
  simp only [child, String.append_assoc]

theorem Diagnostic.asNested_rerooted (root : String) (diagnostic : Diagnostic) :
    (diagnostic.rerooted root).asNested = diagnostic.asNested.rerooted root := by
  cases diagnostic with
  | _ => rfl

theorem Diagnostic.field_rerooted (root : String) (diagnostic : Diagnostic) :
    (diagnostic.rerooted root).field = root ++ diagnostic.field := by
  cases diagnostic with
  | _ => rfl

theorem Diagnostic.chain_rerooted (root : String) (diagnostic : Diagnostic) :
    (diagnostic.rerooted root).chain = diagnostic.chain.map (rerooted root) := by
  induction diagnostic with
  | element field cause ih | nested path cause ih => simp only [rerooted, chain, ih, List.map_cons]
  | _ => rfl

namespace Rule

variable {rule : Rule ν} {value : Value} {field root : String}

theorem Reports.rerooted {report report' : Diagnostic} (reported : Reports value field rule report)
    (reported' : Reports value (root ++ field) rule report') : report.Rerooted root report' := by
  cases reported with
  | _ =>
      cases reported'
      rfl

theorem wrap_rerooted (cause : Diagnostic) :
    rule.wrap (root ++ field) (cause.rerooted root) = (rule.wrap field cause).rerooted root := by
  cases rule with
  | arrayOf => rfl
  | _ => exact cause.asNested_rerooted root

/-- The visits are the same, each at the longer field. -/
theorem visits_rerooted :
    rule.visits value (root ++ field) =
      (rule.visits value field).map fun visit => ⟨visit.checker, visit.value?, root ++ visit.field⟩ := by
  cases rule with
  | arrayOf | objectOf | oneOfType => simp only [visits, child_rerooted, List.map_map, Function.comp_def]
  | shape =>
      simp only [visits, child_rerooted]
      split
      · rw [List.map_map]
        rfl
      · rfl
  | _ => rfl

end Rule

namespace Checker

/-- A check at a longer field comes to the same verdict, with the longer fields in its diagnostic. -/
theorem check_rerooted {checker : Checker ν} (customFree : checker.CustomFree) (value : Value)
    (field root : String) :
    Parallel (Diagnostic.Rerooted root) (checker.check value field).result
      (checker.check value (root ++ field)).result := by
  induction checker using tree_induction generalizing value field with
  | step kind isRequired rule ih =>
    obtain ⟨own, ownParts⟩ := every_mk_iff.mp customFree
    refine Rule.parallel_check own own rfl rfl (fun report report' => Rule.Reports.rerooted) ?_ ?_
    · rintro cause cause' rfl
      exact rule.wrap_rerooted cause
    · rw [Rule.visits_rerooted]
      refine List.forall₂_map_right_iff.mpr (List.forall₂_same.mpr ?_)
      intro visit member
      have inside := Rule.checker_mem_parts member
      obtain ⟨checker, value?, place⟩ := visit
      cases value? with
      | some part => exact ih checker inside (ownParts checker inside) part place
      | none => exact parallel_checkAbsent checker.isRequired rfl

theorem validate_rerooted {checker : Checker ν} (customFree : checker.CustomFree) (value? : Option Value)
    (field root : String) :
    Parallel (Diagnostic.Rerooted root) (checker.validate value? field).result
      (checker.validate value? (root ++ field)).result := by
  cases value? with
  | some value => exact check_rerooted customFree value field root
  | none => exact parallel_checkAbsent checker.isRequired rfl

end Checker

end RecordCheck
