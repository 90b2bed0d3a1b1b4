import RecordCheck.Proofs.Checker.Blueprint
import RecordCheck.Proofs.Checker.Visit
import RecordCheck.Proofs.Diagnostic

/-!
# Where diagnostics point

A `Step` leads from a value to one of its parts, and from a checker to the checker of that part. The root cause of a
failed check names the field of the check extended by steps that can be followed in the value
(`Blueprint.blamed_of_check_build_error`): they end at a part that the checker standing there rejects by itself, or at a
name that the shape standing before the last step requires and the object there lacks.
-/

namespace RecordCheck

variable {ν : Type}

/-- A step to the item of an array or to the field of an object. -/
inductive Step where
  | index (i : Nat)
  | name (s : String)

/-- The step as a part of a field. -/
def Step.text : Step → String
  | index i => i.repr
  | name s => s

/-- The field that steps lead to. -/
def pathOf (field : String) (steps : List Step) : String :=
  steps.foldl (fun path step => child path step.text) field

/-- The part of a value that a step leads to. -/
def Value.part? (value : Value) : Step → Option Value
  | .index i => value.items[i]?
  | .name s => value.entries.lookup s

/-- The checker that a rule applies to the part that a step leads to. -/
def Rule.part? : Rule ν → Step → Option (Checker ν)
  | arrayOf element, .index _ => some element
  | objectOf element, .name _ => some element
  | shape fields, .name s => fields.lookup s
  | _, _ => none

/-- The part of a value that steps lead to. -/
def Value.follow? (value : Value) (steps : List Step) : Option Value := steps.foldlM Value.part? value

/-- The checker that is applied to the part that steps lead to. -/
def Checker.follow? (checker : Checker ν) (steps : List Step) : Option (Checker ν) :=
  steps.foldlM (fun checker step => checker.rule.part? step) checker

/-- The steps lead to a part of the value that the checker standing there rejects by itself, as `root` says. -/
def RejectedAt (checker : Checker ν) (value : Value) (field : String) (steps : List Step)
    (root : Diagnostic) : Prop :=
  ∃ nested part, checker.follow? steps = some nested ∧ value.follow? steps = some part ∧
    (nested.check part (pathOf field steps)).result = .error root ∧
    nested.rule.Reports part (pathOf field steps) root

/-- The last step is a name that the shape standing before it requires and that the object there lacks. -/
def LackedAt (checker : Checker ν) (value : Value) (field : String) (steps : List Step)
    (root : Diagnostic) : Prop :=
  ∃ earlier name shape fields declared cls entries,
    steps = earlier ++ [.name name] ∧ checker.follow? earlier = some shape ∧ shape.rule = .shape fields ∧
    fields.lookup name = some declared ∧ declared.isRequired = true ∧
    value.follow? earlier = some (.object cls entries) ∧ entries.lookup name = none ∧
    root = .missing (pathOf field steps)

/-- A root cause names the field that some steps lead to, and says what is wrong there. -/
def Blamed (checker : Checker ν) (value : Value) (field : String) (root : Diagnostic) : Prop :=
  ∃ steps, root.field = pathOf field steps ∧
    (RejectedAt checker value field steps root ∨ LackedAt checker value field steps root)

theorem Value.follow?_cons (value : Value) (step : Step) (steps : List Step) :
    value.follow? (step :: steps) = (value.part? step).bind (·.follow? steps) := rfl

theorem Checker.follow?_cons (checker : Checker ν) (step : Step) (steps : List Step) :
    checker.follow? (step :: steps) = (checker.rule.part? step).bind (·.follow? steps) := rfl

namespace Rule

theorem rootCause_wrap (rule : Rule ν) (field : String) (cause : Diagnostic) :
    (rule.wrap field cause).rootCause = cause.rootCause := by
  cases rule with
  | arrayOf => rfl
  | _ => exact cause.rootCause_asNested

/-- A rule reports a root cause at the field that it is given. -/
theorem Reports.leaf {rule : Rule ν} {value : Value} {field : String} {report : Diagnostic}
    (reported : Reports value field rule report) : report.rootCause = report ∧ report.field = field := by
  cases reported with
  | _ => exact ⟨rfl, rfl⟩

/-- Each visit of a rule that needs all of them is a step into the value. -/
theorem exists_step_of_mem_visits {rule : Rule ν} (all : rule.needsAll = true)
    (distinctRule : (keysOf rule.fields).Nodup) {value : Value} (distinctValue : (keysOf value.entries).Nodup)
    {field : String} {visit : Visit ν} (member : visit ∈ rule.visits value field) :
    ∃ step, rule.part? step = some visit.checker ∧ value.part? step = visit.value? ∧
      visit.field = child field step.text := by
  cases rule with
  | arrayOf element =>
      obtain ⟨⟨item, i⟩, inside, rfl⟩ := List.mem_map.mp member
      exact ⟨.index i, rfl, List.mem_zipIdx_iff_getElem?.mp inside, rfl⟩
  | objectOf element =>
      obtain ⟨⟨name, item⟩, inside, rfl⟩ := List.mem_map.mp member
      exact ⟨.name name, rfl, lookup_of_mem distinctValue inside, rfl⟩
  | shape fields =>
      simp only [visits] at member
      split at member
      · obtain ⟨⟨name, declared⟩, inside, rfl⟩ := List.mem_map.mp member
        exact ⟨.name name, lookup_of_mem distinctRule inside, rfl, rfl⟩
      · cases member
  | oneOfType => cases all
  | _ => cases member

/-- Only a shape looks for parts that are not there: fields that an object lacks. -/
theorem exists_name_of_absent {rule : Rule ν} {value : Value} {field : String} {visit : Visit ν}
    (member : visit ∈ rule.visits value field) (absent : visit.value? = none) :
    ∃ fields cls entries name, rule = shape fields ∧ value = .object cls entries ∧
      (name, visit.checker) ∈ fields ∧ entries.lookup name = none ∧ visit.field = child field name := by
  cases rule with
  | shape fields =>
      simp only [visits] at member
      split at member
      · rename_i isObject
        obtain ⟨⟨name, declared⟩, inside, rfl⟩ := List.mem_map.mp member
        obtain ⟨cls, same⟩ := Value.eq_object_of_isObject isObject
        exact ⟨fields, cls, value.entries, name, rfl, same, inside, absent, rfl⟩
      · cases member
  | arrayOf | objectOf | oneOfType =>
      obtain ⟨part, -, rfl⟩ := List.mem_map.mp member
      cases absent
  | _ => cases member

end Rule

theorem Value.mem_parts_of_part? {value item : Value} {step : Step} (found : value.part? step = some item) :
    item ∈ value.parts := by
  cases step with
  | index i => exact mem_parts_of_getElem? found
  | name s => exact mem_parts_of_mem_entries (mem_of_lookup found)

/-- What is blamed in a part is blamed in the whole, one step further. -/
theorem Blamed.of_part {checker nested : Checker ν} {value item : Value} {field : String} {step : Step}
    {root : Diagnostic} (position : checker.rule.part? step = some nested) (walk : value.part? step = some item)
    (blamed : Blamed nested item (child field step.text) root) : Blamed checker value field root := by
  obtain ⟨steps, named, rejected | lacked⟩ := blamed
  · obtain ⟨deep, part, stands, reached, failure, reported⟩ := rejected
    refine ⟨step :: steps, named, .inl ⟨deep, part, ?_, ?_, failure, reported⟩⟩
    · rw [Checker.follow?_cons, position]
      exact stands
    · rw [Value.follow?_cons, walk]
      exact reached
  · obtain ⟨earlier, name, shape, fields, declared, cls, entries, rfl, stands, rest⟩ := lacked
    obtain ⟨isShape, given, required, reached, lacking, reported⟩ := rest
    refine ⟨step :: (earlier ++ [Step.name name]), named, .inr ⟨step :: earlier, name, shape, fields, declared, cls,
      entries, rfl, ?_, isShape, given, required, ?_, lacking, reported⟩⟩
    · rw [Checker.follow?_cons, position]
      exact stands
    · rw [Value.follow?_cons, walk]
      exact reached

/-- An absent value is rejected only as a required one that is missing. -/
theorem checkAbsent_error {isRequired : Bool} {field : String} {diagnostic : Diagnostic}
    (failure : (checkAbsent isRequired field : Traced ν Verdict).result = .error diagnostic) :
    isRequired = true ∧ diagnostic = .missing field := by
  unfold checkAbsent at failure
  split at failure
  · rename_i required
    cases failure
    exact ⟨required, rfl⟩
  · cases failure

theorem Checker.blamed_of_check_error {checker : Checker ν} (customFree : checker.CustomFree)
    (wellFormed : checker.WellFormed) {value : Value} (wellFormedValue : value.WellFormed) {field : String}
    {diagnostic : Diagnostic} (failure : (checker.check value field).result = .error diagnostic) :
    Blamed checker value field diagnostic.rootCause := by
  induction checker using tree_induction generalizing value field diagnostic with
  | step kind isRequired rule ih =>
    obtain ⟨own, ownParts⟩ := every_mk_iff.mp customFree
    obtain ⟨distinct, distinctParts⟩ := every_mk_iff.mp wellFormed
    obtain ⟨distinctValue, wellFormedParts⟩ := Value.every_iff.mp wellFormedValue
    rcases Rule.error_cases own failure with reported | ⟨all, before, visit, after, cause, order, -, failed, rfl⟩
    · obtain ⟨leaf, named⟩ := reported.leaf
      rw [leaf]
      exact ⟨[], named, .inl ⟨_, value, rfl, rfl, failure, reported⟩⟩
    · have member : visit ∈ rule.visits value field := by simp [order]
      have inside := Rule.checker_mem_parts member
      rw [Rule.rootCause_wrap]
      cases present : visit.value? with
      | some item =>
          obtain ⟨step, position, walk, named⟩ :=
            Rule.exists_step_of_mem_visits all distinct distinctValue member
          rw [present] at walk
          have deeper : (visit.checker.check item visit.field).result = .error cause := by
            rwa [Visit.verdict, present] at failed
          have wellFormedItem := wellFormedParts item (Value.mem_parts_of_part? walk)
          have blamed := ih _ inside (ownParts _ inside) (distinctParts _ inside) wellFormedItem deeper
          rw [named] at blamed
          exact blamed.of_part position walk
      | none =>
          -- only a shape visits what is absent, so the walk ends in the object that lacks the name
          obtain ⟨fields, cls, entries, name, rfl, rfl, given, lacking, named⟩ :=
            Rule.exists_name_of_absent member present
          rw [Visit.verdict, present] at failed
          obtain ⟨required, rfl⟩ := checkAbsent_error failed
          rw [named]
          exact ⟨[.name name], rfl, .inr ⟨[], name, _, fields, visit.checker, cls, entries, rfl, rfl, rfl,
            lookup_of_mem distinct given, required, rfl, lacking, rfl⟩⟩

/--
The root cause of a failed check points into the value: to a part that the checker standing there rejects, described
as that checker sees it, or to a required name that is lacking.
-/
theorem Blueprint.blamed_of_check_build_error {blueprint : Blueprint ν} (customFree : blueprint.build.CustomFree)
    {value : Value} (wellFormed : value.WellFormed) {field : String} {diagnostic : Diagnostic}
    (failure : (blueprint.build.check value field).result = .error diagnostic) :
    Blamed blueprint.build value field diagnostic.rootCause :=
  Checker.blamed_of_check_error customFree blueprint.wellFormed_build wellFormed failure

/-- A blueprint of tables: rows under names, each with a number that it must have. -/
def tableBlueprint : Blueprint Unit :=
  .objectOf (.arrayOf (.shape [("id", .required (.typed .number .number))]))

/-- A table with an empty row; the name of the rows has a dot in it. -/
def brokenTable : Value := .plain [("a.b", .array [.plain []])]

theorem Blueprint.blamed_brokenTable :
    tableBlueprint.build.CustomFree ∧ brokenTable.WellFormed ∧
      (tableBlueprint.build.check brokenTable "t").result =
        .error (.nested "t.a.b" (.element "t.a.b" (.nested "t.a.b.0.id" (.missing "t.a.b.0.id")))) ∧
      Blamed tableBlueprint.build brokenTable "t" (.missing "t.a.b.0.id") := by
  have customFree : tableBlueprint.build.CustomFree := by
    simp [tableBlueprint, build, buildFields, Checker.arrayOf, Checker.objectOf, Checker.shape, collect, putEntry,
      Checker.new, Checker.required, Checker.CustomFree, Checker.every_mk_iff, Rule.parts, Rule.isCustom]
  have row : (Value.plain []).WellFormed := Value.wellFormed_plain (by simp)
  have rows : (Value.array [.plain []]).WellFormed := Value.wellFormed_array (by simpa using row)
  have wellFormed : brokenTable.WellFormed := Value.wellFormed_plain (by simpa using rows)
  have failure : (tableBlueprint.build.check brokenTable "t").result =
      .error (.nested "t.a.b" (.element "t.a.b" (.nested "t.a.b.0.id" (.missing "t.a.b.0.id")))) := rfl
  exact ⟨customFree, wellFormed, failure, blamed_of_check_build_error customFree wellFormed failure⟩

end RecordCheck
