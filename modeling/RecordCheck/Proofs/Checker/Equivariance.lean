import RecordCheck.Proofs.Checker.Chain
import RecordCheck.Proofs.Checker.Rerooting

/-!
# Checks at two fields

What a check reports at a field is what it reports at the empty one, with the field in front of all links. Two checks of
one value at different fields therefore come to the same verdict, and their diagnostics differ in the fields alone: link
by link, the same text follows the one field and the other (`Checker.validate_equivariant`). At the empty field this
text is a field by itself, so it is empty or starts with a dot.
-/

namespace RecordCheck

variable {ν : Type}

namespace Diagnostic

/-- What was expected of the value in place of what it is. -/
def expected? : Diagnostic → Option String
  | typeMismatch _ expected _ | notAnInstance _ expected _ => some expected
  | _ => none

/-- What the value is. -/
def actual? : Diagnostic → Option String
  | typeMismatch _ _ actual | notAnArray _ actual | notAllowed _ _ actual | noMatch _ _ actual
  | notAnInstance _ _ actual => some actual
  | _ => none

/-- What the value could have been. -/
def allowed? : Diagnostic → Option (List String)
  | notAllowed _ allowed _ | noMatch _ allowed _ => some allowed
  | _ => none

/-- Links that say the same of two places, which are found in the same way from two fields. -/
structure Counterparts (field field' : String) (link link' : Diagnostic) : Prop where
  code : link.code = link'.code
  expected? : link.expected? = link'.expected?
  actual? : link.actual? = link'.actual?
  allowed? : link.allowed? = link'.allowed?
  place : ∃ suffix, (suffix = "" ∨ ∃ rest, suffix = "." ++ rest) ∧
    link.field = field ++ suffix ∧ link'.field = field' ++ suffix

/-- A link is put at two fields in the same way. -/
theorem counterparts_rerooted {link : Diagnostic} (place : AtOrBelow "" link.field) (field field' : String) :
    Counterparts field field' (link.rerooted field) (link.rerooted field') := by
  have suffix : link.field = "" ∨ ∃ rest, link.field = "." ++ rest := by
    simpa only [AtOrBelow, child, String.empty_append] using place
  have places := And.intro (link.field_rerooted field) (link.field_rerooted field')
  cases link with
  | _ => exact ⟨rfl, rfl, rfl, rfl, _, suffix, places⟩

end Diagnostic

namespace Checker

theorem reportsLeaves_of_customFree {checker : Checker ν} (customFree : checker.CustomFree)
    (P : Diagnostic → Prop) : checker.Every (Rule.ReportsLeaves P) := by
  induction checker using tree_induction with
  | step kind isRequired rule ih =>
    obtain ⟨own, ownParts⟩ := every_mk_iff.mp customFree
    refine .mk ?_ fun part member => ih part member (ownParts part member)
    rintro predicate rfl
    cases own

/--
Validations of one value at any two fields both succeed, or fail with chains of equal length whose links are
counterparts: only the field differs, and it is continued in the same way.
-/
theorem validate_equivariant {checker : Checker ν} (customFree : checker.CustomFree) (value? : Option Value)
    (field field' : String) :
    Parallel (fun diagnostic diagnostic' =>
        List.Forall₂ (Diagnostic.Counterparts field field') diagnostic.chain diagnostic'.chain)
      (checker.validate value? field).result (checker.validate value? field').result := by
  -- both validations are compared with the one at the empty field
  have here := validate_rerooted customFree value? "" field
  have there := validate_rerooted customFree value? "" field'
  rw [String.append_empty] at here there
  rcases here.ok_or_error with ⟨passed, passed'⟩ | ⟨base, diagnostic, failure, failure', rfl⟩
  · rw [passed', there.ok_iff.mp passed]
    exact .ok
  · obtain ⟨diagnostic', failure'', rfl⟩ := there.error_of_error failure
    rw [failure', failure'']
    refine .error ?_
    have chained := chained_of_validate_error (fun _ _ _ => trivial)
      (reportsLeaves_of_customFree customFree fun _ => True) failure
    rw [base.chain_rerooted, base.chain_rerooted]
    refine List.forall₂_map_left_iff.mpr (List.forall₂_map_right_iff.mpr (List.forall₂_same.mpr ?_))
    intro link member
    exact Diagnostic.counterparts_rerooted (chained.atOrBelow_of_mem member) field field'

/-- Ships, each with a name and a berth for each of its ports. -/
def fleet : Checker Unit :=
  .arrayOf (.shape [("name", .required .string), ("berths", .objectOf (.oneOfType [.number, .bool]))])

/-- The second ship has a berth that is neither a number nor a truth value. -/
def misberthed : Value :=
  .array [.plain [("name", .string "Argo")], .plain [("name", .string "Fram"), ("berths", .plain [("Oslo.2", .null)])]]

/-- What the fleet reports of that berth. -/
def berthReport (field : String) : Diagnostic :=
  .element field (.nested (field ++ ".1.berths.Oslo.2")
    (.noMatch (field ++ ".1.berths.Oslo.2") ["number", "bool"] "object"))

theorem validate_equivariant_misberthed :
    fleet.CustomFree ∧ (fleet.validate (some misberthed) "").result = .error (berthReport "") ∧
      (fleet.validate (some misberthed) "port.fleet").result = .error (berthReport "port.fleet") ∧
      List.Forall₂ (Diagnostic.Counterparts "" "port.fleet") (berthReport "").chain
        (berthReport "port.fleet").chain := by
  have customFree : fleet.CustomFree := by
    simp [fleet, arrayOf, shape, required, string, objectOf, oneOfType, number, bool, collect, putEntry, new,
      CustomFree, every_mk_iff, Rule.parts, Rule.isCustom]
  have failure : (fleet.validate (some misberthed) "").result = .error (berthReport "") := rfl
  have failure' : (fleet.validate (some misberthed) "port.fleet").result = .error (berthReport "port.fleet") := rfl
  obtain ⟨diagnostic, same, counterparts⟩ :=
    (validate_equivariant customFree (some misberthed) "" "port.fleet").error_of_error failure
  rw [failure'] at same
  cases same
  exact ⟨customFree, failure, failure', counterparts⟩

end Checker

end RecordCheck
