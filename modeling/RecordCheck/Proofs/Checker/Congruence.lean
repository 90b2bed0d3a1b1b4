import RecordCheck.Proofs.Checker.Parallel
import RecordCheck.Proofs.Value.StrictEq

/-!
# Checks respect strict equality

Values that are strictly equal pass the same checks (`Checker.check_congr`). Their fields may come in different orders,
which only a rule for all fields of an object can notice: without such rules the results are equal, the failures with
all that they wrap. The visits of a rule in two values that are the same are compared one by one (`Visit.Alike`).
-/

namespace RecordCheck

variable {ν : Type}

/-- Visits with one checker at one field, to values that are the same or both absent. -/
structure Visit.Alike (visit visit' : Visit ν) : Prop where
  checker : visit.checker = visit'.checker
  field : visit.field = visit'.field
  value? : Option.Rel Value.Same visit.value? visit'.value?

/-- Alike visits judge the absence of a value in one way, or apply one checker to values that are the same. -/
theorem Visit.Alike.verdict_cases {visit visit' : Visit ν} (alike : Alike visit visit') :
    visit.verdict = visit'.verdict ∨
      ∃ x y, visit.value? = some x ∧ visit'.value? = some y ∧ Value.Same x y ∧
        visit.verdict = visit.checker.check x visit.field ∧ visit'.verdict = visit.checker.check y visit.field := by
  obtain ⟨checker, value?, field⟩ := visit
  obtain ⟨checker', value?', field'⟩ := visit'
  obtain ⟨sameChecker, sameField, values⟩ := alike
  cases sameChecker
  cases sameField
  cases values with
  | none => exact .inl rfl
  | some same => exact .inr ⟨_, _, rfl, rfl, same, rfl, rfl⟩

namespace Rule

open Value (Same)

variable {rule : Rule ν} {a b : Value}

theorem admits_eq (same : Same a b) (same' : Same b a) : rule.admits a = rule.admits b := by
  have looks := same.lookalike
  cases rule with
  | typed tag => simp only [admits, looks.typeName]
  | array | arrayOf => exact looks.isArray
  | objectOf | shape => exact looks.isObject
  | instanceOf cls => simp only [admits, Value.isInstanceOf, looks.class?]
  | oneOf allowed =>
      have equal : ∀ candidate : Value, candidate.strictEq a = candidate.strictEq b := by
        intro candidate
        rw [Bool.eq_iff_iff, Value.strictEq_iff, Value.strictEq_iff]
        exact ⟨fun known => known.trans same, fun known => known.trans same'⟩
      simp only [admits, equal]
  | anything | oneOfType | custom => rfl

/-- A rule reports values that are the same in the same words. -/
theorem Reports.eq {field : String} {report report' : Diagnostic} (reported : Reports a field rule report)
    (reported' : Reports b field rule report') (same : Same a b) : report = report' := by
  have looks := same.lookalike
  cases reported with
  | typed | array | arrayOf | oneOfType =>
      cases reported'
      rw [looks.typeName]
  | objectOf | shape =>
      cases reported'
      rw [looks.containerName]
  | oneOf =>
      cases reported'
      rw [same.text_eq]
  | instanceOf =>
      cases reported'
      rw [looks.constructorName?]

/-- The items of arrays that are the same are visited in the same order. -/
private theorem forall₂_zipIdx {xs ys : List Value} (same : List.Forall₂ Same xs ys) (start : Nat) :
    List.Forall₂ (fun left right => Same left.1 right.1 ∧ left.2 = right.2) (xs.zipIdx start) (ys.zipIdx start) := by
  induction same generalizing start with
  | nil => exact .nil
  | cons here later ih => exact .cons ⟨here, rfl⟩ (ih (start + 1))

/-- Unless it asks the same of all fields, a rule visits the same parts in the same order. -/
theorem forall₂_visits (ordered : rule.isObjectOf = false) (same : Same a b) (wellFormed : a.WellFormed)
    (field : String) : List.Forall₂ Visit.Alike (rule.visits a field) (rule.visits b field) := by
  cases rule with
  | arrayOf element =>
      refine List.forall₂_map_left_iff.mpr (List.forall₂_map_right_iff.mpr ?_)
      refine (forall₂_zipIdx same.forall₂_items 0).imp ?_
      rintro left right ⟨item, place⟩
      exact ⟨rfl, by rw [place], .some item⟩
  | objectOf => cases ordered
  | oneOfType alternatives =>
      refine List.forall₂_map_left_iff.mpr (List.forall₂_map_right_iff.mpr (List.forall₂_same.mpr ?_))
      intro checker _
      exact ⟨rfl, rfl, .some same⟩
  | shape fields =>
      simp only [visits, same.lookalike.isObject]
      split
      · refine List.forall₂_map_left_iff.mpr (List.forall₂_map_right_iff.mpr (List.forall₂_same.mpr ?_))
        intro part _
        exact ⟨rfl, rfl, same.rel_lookup wellFormed part.1⟩
      · exact .nil
  | _ => exact .nil

/-- Whatever a rule visits in the second value, it visits in the first. -/
theorem exists_alike_visit (same : Same a b) (wellFormed : a.WellFormed) (wellFormed' : b.WellFormed)
    {field : String} {visit' : Visit ν} (member : visit' ∈ rule.visits b field) :
    ∃ visit ∈ rule.visits a field, Visit.Alike visit visit' := by
  cases ordered : rule.isObjectOf with
  | false =>
      have pairs := forall₂_visits ordered same wellFormed field
      obtain ⟨i, inside, rfl⟩ := List.getElem_of_mem member
      have inside' : i < (rule.visits a field).length := by rwa [pairs.length_eq]
      exact ⟨(rule.visits a field)[i], List.getElem_mem inside', pairs.get inside' inside⟩
  | true =>
      cases rule with
      | objectOf element =>
          obtain ⟨⟨name, y⟩, inside, rfl⟩ := List.mem_map.mp member
          have foundY := lookup_of_mem (Value.every_iff.mp wellFormed').1 inside
          have related := same.rel_lookup wellFormed name
          rw [foundY] at related
          cases foundX : a.entries.lookup name with
          | none =>
              rw [foundX] at related
              cases related
          | some x =>
              rw [foundX] at related
              cases related with
              | some part =>
                  exact ⟨_, List.mem_map.mpr ⟨(name, x), mem_of_lookup foundX, rfl⟩, rfl, rfl, .some part⟩
      | _ => cases ordered

/-- The values that a rule visits are parts of the value, or the value itself in case of a union. -/
theorem wellFormed_of_mem_visits {value part : Value} (wellFormed : value.WellFormed) {field : String}
    {visit : Visit ν} (member : visit ∈ rule.visits value field) (present : visit.value? = some part) :
    part.WellFormed := by
  have parts := (Value.every_iff.mp wellFormed).2
  cases rule with
  | arrayOf element =>
      obtain ⟨⟨item, i⟩, inside, rfl⟩ := List.mem_map.mp member
      cases present
      exact parts item (Value.mem_parts_of_getElem? (List.mem_zipIdx_iff_getElem?.mp inside))
  | objectOf element =>
      obtain ⟨⟨name, item⟩, inside, rfl⟩ := List.mem_map.mp member
      cases present
      exact parts item (Value.mem_parts_of_mem_entries inside)
  | oneOfType alternatives =>
      obtain ⟨checker, -, rfl⟩ := List.mem_map.mp member
      cases present
      exact wellFormed
  | shape fields =>
      simp only [visits] at member
      split at member
      · obtain ⟨⟨name, declared⟩, -, rfl⟩ := List.mem_map.mp member
        exact parts part (Value.mem_parts_of_mem_entries (mem_of_lookup present))
      · cases member
  | _ => cases member

end Rule

namespace Checker

open Value (Same)

/-- A check that a value passes is passed by every value that is the same. -/
theorem check_ok_of_same {checker : Checker ν} (customFree : checker.CustomFree) {a b : Value} (same : Same a b)
    (wellFormed : a.WellFormed) (wellFormed' : b.WellFormed) {field : String}
    (passed : (checker.check a field).result = .ok ()) : (checker.check b field).result = .ok () := by
  induction checker using tree_induction generalizing a b field with
  | step kind isRequired rule ih =>
    obtain ⟨own, ownParts⟩ := every_mk_iff.mp customFree
    cases all : rule.needsAll with
    | true =>
        obtain ⟨admitted, each⟩ := (Rule.check_ok_iff all).mp passed
        have same' := same.symm wellFormed wellFormed'
        refine (Rule.check_ok_iff all).mpr ⟨(Rule.admits_eq same same').symm.trans admitted, ?_⟩
        intro visit' member'
        obtain ⟨visit, member, alike⟩ := Rule.exists_alike_visit same wellFormed wellFormed' member'
        have before := each visit member
        rcases alike.verdict_cases with equal | ⟨x, y, present, present', part, verdict, verdict'⟩
        · rwa [← equal]
        · rw [verdict] at before
          rw [verdict']
          have inside := Rule.checker_mem_parts member
          exact ih visit.checker inside (ownParts _ inside) part
            (Rule.wellFormed_of_mem_visits wellFormed member present)
            (Rule.wellFormed_of_mem_visits wellFormed' member' present') before
    | false =>
        obtain ⟨alternatives, rfl⟩ := Rule.eq_oneOfType_of_not_needsAll own all
        obtain ⟨alternative, member, accepts⟩ := Rule.check_oneOfType_ok_iff.mp passed
        have accepts' := ih alternative member (ownParts _ member) same wellFormed wellFormed' accepts
        exact Rule.check_oneOfType_ok_iff.mpr ⟨alternative, member, accepts'⟩

/-- Checkers that do not ask the same of all fields say the same of values that are the same. -/
theorem check_eq_of_same {checker : Checker ν} (customFree : checker.CustomFree)
    (objectOfFree : checker.ObjectOfFree) {a b : Value} (same : Same a b) (wellFormed : a.WellFormed)
    (wellFormed' : b.WellFormed) (field : String) :
    (checker.check a field).result = (checker.check b field).result := by
  induction checker using tree_induction generalizing a b field with
  | step kind isRequired rule ih =>
    obtain ⟨own, ownParts⟩ := every_mk_iff.mp customFree
    obtain ⟨ordered, orderedParts⟩ := every_mk_iff.mp objectOfFree
    have alike := Rule.forall₂_visits ordered same wellFormed field
    have visits : List.Forall₂ (Visit.Parallel Eq) (rule.visits a field) (rule.visits b field) := by
      refine List.forall₂_iff_get.mpr ⟨alike.length_eq, ?_⟩
      intro i inside inside'
      have member := List.get_mem (rule.visits a field) ⟨i, inside⟩
      have member' := List.get_mem (rule.visits b field) ⟨i, inside'⟩
      rcases (alike.get inside inside').verdict_cases with
        equal | ⟨x, y, present, present', part, verdict, verdict'⟩
      · exact .of_eq (congrArg Traced.result equal)
      · apply Parallel.of_eq
        rw [verdict, verdict']
        have checkerInside := Rule.checker_mem_parts member
        exact ih _ checkerInside (ownParts _ checkerInside) (orderedParts _ checkerInside) part
          (Rule.wellFormed_of_mem_visits wellFormed member present)
          (Rule.wellFormed_of_mem_visits wellFormed' member' present') _
    have same' := same.symm wellFormed wellFormed'
    have parallel : Parallel Eq (rule.check a field).result (rule.check b field).result :=
      Rule.parallel_check own own rfl (Rule.admits_eq same same')
        (fun report report' reported reported' => reported.eq reported' same)
        (fun cause cause' equal => congrArg (rule.wrap field) equal) visits
    exact parallel.eq

/--
Values that are strictly equal pass the same checks. If no rule asks the same of all fields of an object, the checks
come to the same result, a failure with the whole chain of what it wraps.
-/
theorem check_congr {checker : Checker ν} (customFree : checker.CustomFree) {a b : Value}
    (wellFormed : a.WellFormed) (wellFormed' : b.WellFormed) (equal : a.strictEq b = true) (field : String) :
    ((checker.check a field).result = .ok () ↔ (checker.check b field).result = .ok ()) ∧
      (checker.ObjectOfFree → (checker.check a field).result = (checker.check b field).result) := by
  have same := Value.strictEq_iff.mp equal
  have same' := same.symm wellFormed wellFormed'
  refine ⟨⟨?_, ?_⟩, ?_⟩
  · exact check_ok_of_same customFree same wellFormed wellFormed'
  · exact check_ok_of_same customFree same' wellFormed' wellFormed
  · intro objectOfFree
    exact check_eq_of_same customFree objectOfFree same wellFormed wellFormed' field

/-- A marked origin. -/
def markedOrigin : Value := .plain [("x", .number (Double.zero false)), ("marks", .array [.string "a"])]

/-- The same with its fields in the other order and with the other zero. -/
def originMarked : Value := .plain [("marks", .array [.string "a"]), ("x", .number (Double.zero true))]

/-- A checker that accepts no number for `x`. -/
def unplaced : Checker Unit := .shape [("marks", .array), ("x", .oneOf [.string "none"])]

theorem check_congr_markedOrigin :
    unplaced.CustomFree ∧ unplaced.ObjectOfFree ∧ markedOrigin.WellFormed ∧ originMarked.WellFormed ∧
      markedOrigin.strictEq originMarked = true ∧
      ((unplaced.check markedOrigin "p").result = .ok () ↔ (unplaced.check originMarked "p").result = .ok ()) ∧
      (unplaced.check markedOrigin "p").result = .error (.nested "p.x" (.notAllowed "p.x" ["none"] "0")) ∧
      (unplaced.check markedOrigin "p").result = (unplaced.check originMarked "p").result := by
  have customFree : unplaced.CustomFree := by
    simp [unplaced, array, oneOf, shape, collect, putEntry, new, CustomFree, every_mk_iff, Rule.parts, Rule.isCustom]
  have objectOfFree : unplaced.ObjectOfFree := by
    simp [unplaced, array, oneOf, shape, collect, putEntry, new, ObjectOfFree, every_mk_iff, Rule.parts,
      Rule.isObjectOf]
  have number : ∀ x, (Value.number x).WellFormed := fun x => Value.wellFormed_leaf rfl rfl
  have text : ∀ s, (Value.string s).WellFormed := fun s => Value.wellFormed_leaf rfl rfl
  have marks : (Value.array [.string "a"]).WellFormed := Value.wellFormed_array (by simp [text])
  have wellFormed : markedOrigin.WellFormed := Value.wellFormed_plain (by simp [number, marks])
  have wellFormed' : originMarked.WellFormed := Value.wellFormed_plain (by simp [number, marks])
  have equal : markedOrigin.strictEq originMarked = true := by decide
  obtain ⟨accepted, results⟩ := check_congr customFree wellFormed wellFormed' equal "p"
  exact ⟨customFree, objectOfFree, wellFormed, wellFormed', equal, accepted, rfl, results objectOfFree⟩

end Checker

end RecordCheck
