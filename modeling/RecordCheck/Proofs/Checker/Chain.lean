import RecordCheck.Proofs.Checker.Blame

/-!
# The chain of a diagnostic

A failed check returns a chain of diagnostics, from the one that names the field of the check down to its root cause.
`Diagnostic.Chained` says how chains are built: a leaf at the field, an array's failure around that of an element one
step below, or the failure from one step below as a nested one. All chains of checks are built so
(`Checker.chained_of_check_error`). What links have to do with each other follows from it, and what they have to do
with the value from the way the check takes (`Blueprint.wellChained_of_validate_error`).
-/

namespace RecordCheck

variable {ν : Type}

/-- The text is the field, or starts with the field and a dot. -/
def AtOrBelow (field text : String) : Prop := text = field ∨ ∃ rest, text = child field rest

theorem child_child (field step rest : String) : child (child field step) rest = child field (child step rest) := by
  simp only [child, String.append_assoc]

theorem child_ne (field rest : String) : child field rest ≠ field := by
  intro same
  have lengths := congrArg String.length same
  simp only [child, String.length_append] at lengths
  have dot : ".".length = 1 := rfl
  omega

/-- What is at or below a child is below the field. -/
theorem AtOrBelow.below {field step text : String} (inside : AtOrBelow (child field step) text) :
    ∃ rest, text = child field rest := by
  rcases inside with rfl | ⟨rest, rfl⟩
  · exact ⟨step, rfl⟩
  · exact ⟨child step rest, child_child field step rest⟩

namespace Diagnostic

/-- The text of the diagnostic contains the field that it names. -/
def Mentions (diagnostic : Diagnostic) : Prop :=
  ∃ before after, diagnostic.message = before ++ diagnostic.field ++ after

theorem exists_append_of_foldl (start : String) (pieces : List String) :
    ∃ after, pieces.foldl (· ++ ·) start = start ++ after := by
  induction pieces generalizing start with
  | nil => exact ⟨"", String.append_empty.symm⟩
  | cons piece rest ih =>
      obtain ⟨after, text⟩ := ih (start ++ piece)
      exact ⟨piece ++ after, text.trans (String.append_assoc ..)⟩

/-- A text that goes on from what is expected of a field contains the field. -/
theorem exists_of_expected (field : String) (pieces : List String) :
    ∃ before after, pieces.foldl (· ++ ·) ("Expected " ++ field) = before ++ field ++ after := by
  obtain ⟨after, text⟩ := exists_append_of_foldl ("Expected " ++ field) pieces
  exact ⟨"Expected ", after, text⟩

theorem mentions_missing (field : String) : (missing field).Mentions :=
  ⟨"", " is required", congrArg (· ++ " is required") String.empty_append.symm⟩

theorem mentions_element (field : String) (cause : Diagnostic) : (element field cause).Mentions :=
  ⟨"", " does not consist of the correct type",
    congrArg (· ++ " does not consist of the correct type") String.empty_append.symm⟩

theorem mentions_of_code_ne_custom {diagnostic : Diagnostic} (leaf : diagnostic.cause? = none)
    (own : diagnostic.code ≠ .custom) : diagnostic.Mentions := by
  cases diagnostic with
  | missing field => exact mentions_missing field
  | typeMismatch field expected actual =>
      exact exists_of_expected field [" to be of type `", expected, "`, but got `", actual, "`"]
  | notAnArray field actual => exact exists_of_expected field [" to be an `Array`, but got `", actual, "`"]
  | notAllowed field allowed actual | noMatch field allowed actual =>
      exact exists_of_expected field [" to be ", enumerate allowed, ", but got `", actual, "`"]
  | notAnInstance field expected actual =>
      exact exists_of_expected field [" to be an instance of `", expected, "`, but got `", actual, "`"]
  | element | nested => cases leaf
  | custom => exact absurd rfl own

/-- How the chain of a failure at a field is built, from a leaf that satisfies `P`. -/
inductive Chained (P : Diagnostic → Prop) : String → Diagnostic → Prop where
  | leaf {field : String} {diagnostic : Diagnostic} (leaf : diagnostic.cause? = none)
      (named : diagnostic.field = field) (admitted : P diagnostic) : Chained P field diagnostic
  | element {field step : String} {cause : Diagnostic} (below : Chained P (child field step) cause) :
      Chained P field (.element field cause)
  | nested {field step : String} {cause : Diagnostic} (below : Chained P (child field step) cause) :
      Chained P field cause.asNested

namespace Chained

variable {P : Diagnostic → Prop} {field : String} {diagnostic : Diagnostic}

/-- Every link is at the field or below. -/
theorem atOrBelow_of_mem (chained : Chained P field diagnostic) {link : Diagnostic}
    (member : link ∈ diagnostic.chain) : AtOrBelow field link.field := by
  induction chained generalizing link with
  | leaf leaf named admitted =>
      rw [chain_of_leaf leaf] at member
      obtain rfl := List.mem_singleton.mp member
      exact .inl named
  | element below ih =>
      rcases List.mem_cons.mp member with rfl | later
      · exact .inl rfl
      · exact .inr (ih later).below
  | @nested field step cause below ih =>
      rcases mem_chain_asNested member with inside | ⟨-, rfl⟩
      · exact .inr (ih inside).below
      · exact .inr (ih cause.self_mem_chain).below

/-- A nested link has the path of what it wraps, and wraps no nested one. -/
theorem nested_of_mem (chained : Chained P field diagnostic) {path : String} {inner : Diagnostic}
    (member : .nested path inner ∈ diagnostic.chain) : path = inner.field ∧ inner.code ≠ .nested := by
  induction chained with
  | leaf leaf named admitted =>
      rw [chain_of_leaf leaf] at member
      obtain rfl := List.mem_singleton.mp member
      cases leaf
  | element below ih =>
      rcases List.mem_cons.mp member with same | later
      · cases same
      · exact ih later
  | nested below ih =>
      rcases mem_chain_asNested member with inside | ⟨other, same⟩
      · exact ih inside
      · cases same
        exact ⟨rfl, other⟩

/-- The first link has the field of the root cause unless an array's failure is between them. -/
theorem field_eq_rootCause_iff (chained : Chained P field diagnostic) :
    diagnostic.field = diagnostic.rootCause.field ↔ ∀ link ∈ diagnostic.chain, link.code ≠ .element := by
  induction chained with
  | @leaf field diagnostic leaf named admitted =>
      rw [rootCause_of_leaf leaf, chain_of_leaf leaf]
      refine iff_of_true rfl ?_
      intro link member
      obtain rfl := List.mem_singleton.mp member
      cases link with
      | element | nested => cases leaf
      | _ => nofun
  | @element field step cause below ih =>
      refine iff_of_false ?_ ?_
      · intro same
        obtain ⟨rest, root⟩ := (below.atOrBelow_of_mem cause.rootCause_mem_chain).below
        have cyclic : field = child field rest := same.trans root
        exact child_ne field rest cyclic.symm
      · intro none
        exact none (.element field cause) List.mem_cons_self rfl
  | @nested field step cause below ih =>
      rw [field_asNested, rootCause_asNested, ih, chain_asNested]
      split
      · exact Iff.rfl
      · simp [code]

/-- The text contains the field if those of the leaves do. -/
theorem mentions (chained : Chained Mentions field diagnostic) : diagnostic.Mentions := by
  induction chained with
  | leaf leaf named admitted => exact admitted
  | @element field step cause below ih => exact mentions_element field cause
  | @nested field step cause below ih =>
      obtain ⟨before, after, text⟩ := ih
      exact ⟨before, after, by rw [message_asNested, field_asNested, text]⟩

end Chained

end Diagnostic

namespace Rule

/-- If the rule is a predicate of the caller, it fails with leaves at the field that it is given that satisfy `P`. -/
def ReportsLeaves (P : Diagnostic → Prop) (rule : Rule ν) : Prop :=
  ∀ predicate, rule = .custom predicate → ∀ value field diagnostic,
    (predicate value field).result = .error diagnostic →
      diagnostic.cause? = none ∧ diagnostic.field = field ∧ P diagnostic

theorem Reports.cause?_eq_none {rule : Rule ν} {value : Value} {field : String} {report : Diagnostic}
    (reported : Reports value field rule report) : report.cause? = none ∧ report.code ≠ .custom := by
  cases reported with
  | _ => exact ⟨rfl, nofun⟩

/-- Only a rule for the elements of an array wraps a failure as one of an element. -/
theorem wrap_cases (rule : Rule ν) (field : String) (cause : Diagnostic) :
    (∃ element, rule = arrayOf element) ∧ rule.wrap field cause = .element field cause ∨
      rule.wrap field cause = cause.asNested := by
  cases rule with
  | arrayOf element => exact .inl ⟨⟨element, rfl⟩, rfl⟩
  | _ => exact .inr rfl

/-- A rule that needs all its visits makes them one step below its field. -/
theorem exists_child_of_mem_visits {rule : Rule ν} (all : rule.needsAll = true) {value : Value} {field : String}
    {visit : Visit ν} (member : visit ∈ rule.visits value field) : ∃ step, visit.field = child field step := by
  cases rule with
  | arrayOf | objectOf =>
      obtain ⟨part, -, rfl⟩ := List.mem_map.mp member
      exact ⟨_, rfl⟩
  | shape fields =>
      simp only [visits] at member
      split at member
      · obtain ⟨part, -, rfl⟩ := List.mem_map.mp member
        exact ⟨_, rfl⟩
      · cases member
  | oneOfType => cases all
  | _ => cases member

/-- The visit of an array at which the rule stops is that of its first rejected element. -/
theorem exists_first_of_visits_arrayOf {element : Checker ν} {value : Value} {field : String}
    {before after : List (Visit ν)} {visit : Visit ν} {cause : Diagnostic}
    (order : (arrayOf element).visits value field = before ++ visit :: after)
    (passed : ∀ earlier ∈ before, earlier.verdict.result = .ok ())
    (failed : visit.verdict.result = .error cause) :
    ∃ (items : List Value) (i : Nat) (item : Value), value = .array items ∧ items[i]? = some item ∧
      (∀ (j : Nat) earlier, j < i → items[j]? = some earlier →
        (element.check earlier (child field j.repr)).result = .ok ()) ∧
      (element.check item (child field i.repr)).result = .error cause := by
  have at' : ∀ j : Nat, (before ++ visit :: after)[j]? =
      value.items[j]?.map fun item => ⟨element, some item, child field j.repr⟩ := by
    intro j
    rw [← order, visits, List.getElem?_map, List.getElem?_zipIdx, Option.map_map]
    simp [Function.comp_def]
  have here := at' before.length
  rw [List.getElem?_append_right (Nat.le_refl _), Nat.sub_self, List.getElem?_cons_zero] at here
  obtain ⟨item, found, rfl⟩ := Option.map_eq_some_iff.mp here.symm
  have isArray : value = .array value.items := by
    cases value with
    | array => rfl
    | _ => cases found
  refine ⟨value.items, before.length, item, isArray, found, ?_, failed⟩
  intro j earlier inside foundEarlier
  have there := at' j
  rw [List.getElem?_append_left inside, foundEarlier, Option.map_some] at there
  exact passed _ (List.mem_of_getElem? there)

end Rule

/-- Checks at a field fail with chains from there, whose leaves satisfy `P` if those of predicates do. -/
theorem Checker.chained_of_check_error {P : Diagnostic → Prop}
    (own : ∀ diagnostic : Diagnostic, diagnostic.cause? = none → diagnostic.code ≠ .custom → P diagnostic)
    {checker : Checker ν} (leaves : checker.Every (Rule.ReportsLeaves P)) {value : Value} {field : String}
    {diagnostic : Diagnostic} (failure : (checker.check value field).result = .error diagnostic) :
    Diagnostic.Chained P field diagnostic := by
  induction checker using tree_induction generalizing value field diagnostic with
  | step kind isRequired rule ih =>
    obtain ⟨here, parts⟩ := every_mk_iff.mp leaves
    cases caller : rule.isCustom with
    | true =>
        cases rule with
        | custom predicate =>
            obtain ⟨leaf, named, admitted⟩ := here predicate rfl value field diagnostic failure
            exact .leaf leaf named admitted
        | _ => cases caller
    | false =>
        rcases Rule.error_cases caller failure with reported | ⟨all, before, visit, after, cause, order, -, failed, rfl⟩
        · obtain ⟨leaf, code⟩ := reported.cause?_eq_none
          exact .leaf leaf reported.leaf.2 (own diagnostic leaf code)
        · have member : visit ∈ rule.visits value field := by simp [order]
          have inside := Rule.checker_mem_parts member
          have chained : Diagnostic.Chained P visit.field cause := by
            obtain ⟨nested, value?, place⟩ := visit
            cases value? with
            | some part => exact ih nested inside (parts nested inside) failed
            | none =>
                obtain ⟨-, rfl⟩ := checkAbsent_error failed
                exact .leaf rfl rfl (own _ rfl nofun)
          obtain ⟨step, below⟩ := Rule.exists_child_of_mem_visits all member
          rw [below] at chained
          rcases rule.wrap_cases field cause with ⟨-, wrapped⟩ | wrapped
          · rw [wrapped]
            exact .element chained
          · rw [wrapped]
            exact .nested chained

theorem Checker.chained_of_validate_error {P : Diagnostic → Prop}
    (own : ∀ diagnostic : Diagnostic, diagnostic.cause? = none → diagnostic.code ≠ .custom → P diagnostic)
    {checker : Checker ν} (leaves : checker.Every (Rule.ReportsLeaves P)) {value? : Option Value} {field : String}
    {diagnostic : Diagnostic} (failure : (checker.validate value? field).result = .error diagnostic) :
    Diagnostic.Chained P field diagnostic := by
  cases value? with
  | some value => exact chained_of_check_error own leaves failure
  | none =>
      obtain ⟨-, rfl⟩ := checkAbsent_error failure
      exact .leaf rfl rfl (own _ rfl nofun)

/--
Inside of the value stands an array at the path, and the cause is the failure of its first rejected element, at the
index of that element or below.
-/
def FirstRejected (checker : Checker ν) (value : Value) (field path : String) (cause : Diagnostic) : Prop :=
  ∃ (steps : List Step) (nested element : Checker ν) (items : List Value) (i : Nat) (item : Value),
    path = pathOf field steps ∧ checker.follow? steps = some nested ∧ nested.rule = .arrayOf element ∧
    value.follow? steps = some (.array items) ∧ items[i]? = some item ∧
    (∀ (j : Nat) earlier, j < i → items[j]? = some earlier →
      (element.check earlier (child path j.repr)).result = .ok ()) ∧
    (element.check item (child path i.repr)).result = .error cause ∧
    AtOrBelow (child path i.repr) cause.field

/-- What is rejected inside of a part is rejected inside of the whole, one step further. -/
theorem FirstRejected.of_part {checker nested : Checker ν} {value item : Value} {field path : String} {step : Step}
    {cause : Diagnostic} (position : checker.rule.part? step = some nested) (walk : value.part? step = some item)
    (rejected : FirstRejected nested item (child field step.text) path cause) :
    FirstRejected checker value field path cause := by
  obtain ⟨steps, deep, element, items, i, part, place, stands, isArrayOf, reached, rest⟩ := rejected
  refine ⟨step :: steps, deep, element, items, i, part, place, ?_, isArrayOf, ?_, rest⟩
  · rw [Checker.follow?_cons, position]
    exact stands
  · rw [Value.follow?_cons, walk]
    exact reached

namespace Checker

theorem firstRejected_of_mem_chain {P : Diagnostic → Prop}
    (own : ∀ diagnostic : Diagnostic, diagnostic.cause? = none → diagnostic.code ≠ .custom → P diagnostic)
    {checker : Checker ν} (leaves : checker.Every (Rule.ReportsLeaves P)) (wellFormed : checker.WellFormed)
    {value : Value} (wellFormedValue : value.WellFormed) {field path : String} {diagnostic cause : Diagnostic}
    (failure : (checker.check value field).result = .error diagnostic)
    (member : .element path cause ∈ diagnostic.chain) : FirstRejected checker value field path cause := by
  induction checker using tree_induction generalizing value field diagnostic with
  | step kind isRequired rule ih =>
    obtain ⟨here, parts⟩ := every_mk_iff.mp leaves
    obtain ⟨distinct, distinctParts⟩ := every_mk_iff.mp wellFormed
    obtain ⟨distinctValue, wellFormedParts⟩ := Value.every_iff.mp wellFormedValue
    have notLeaf : diagnostic.cause? ≠ none := by
      intro leaf
      rw [Diagnostic.chain_of_leaf leaf] at member
      obtain rfl := List.mem_singleton.mp member
      cases leaf
    cases caller : rule.isCustom with
    | true =>
        cases rule with
        | custom predicate => exact absurd (here predicate rfl value field diagnostic failure).1 notLeaf
        | _ => cases caller
    | false =>
        rcases Rule.error_cases caller failure with
          reported | ⟨all, before, visit, after, inner, order, passed, failed, rfl⟩
        · exact absurd reported.cause?_eq_none.1 notLeaf
        · have visited : visit ∈ rule.visits value field := by simp [order]
          have inside := Rule.checker_mem_parts visited
          obtain ⟨step, position, walk, named⟩ :=
            Rule.exists_step_of_mem_visits all distinct distinctValue visited
          -- a link further inside was there already when the visit failed
          have deeper : .element path cause ∈ inner.chain →
              FirstRejected (mk kind isRequired rule) value field path cause := by
            intro earlier
            cases present : visit.value? with
            | none =>
                rw [Visit.verdict, present] at failed
                obtain ⟨-, rfl⟩ := checkAbsent_error failed
                obtain same := List.mem_singleton.mp earlier
                cases same
            | some item =>
                rw [present] at walk
                rw [Visit.verdict, present] at failed
                have wellFormedItem := wellFormedParts item (Value.mem_parts_of_part? walk)
                have rejected := ih _ inside (parts _ inside) (distinctParts _ inside) wellFormedItem failed earlier
                rw [named] at rejected
                exact rejected.of_part position walk
          rcases rule.wrap_cases field inner with ⟨⟨element, rfl⟩, wrapped⟩ | wrapped
          · rw [wrapped] at member
            rcases List.mem_cons.mp member with first | earlier
            · cases first
              obtain ⟨items, i, item, rfl, found, before, rejected⟩ :=
                Rule.exists_first_of_visits_arrayOf order passed failed
              have elementLeaves := parts element (List.mem_singleton_self element)
              have chained := chained_of_check_error own elementLeaves rejected
              exact ⟨[], _, element, items, i, item, rfl, rfl, rfl, rfl, found, before, rejected,
                chained.atOrBelow_of_mem cause.self_mem_chain⟩
            · exact deeper earlier
          · rw [wrapped] at member
            exact deeper (Diagnostic.element_mem_chain_asNested_iff.mp member)

end Checker

/-- What holds of the chain of a diagnostic that a checker returns for a value, present or absent, at a field. -/
structure WellChained (checker : Checker ν) (value? : Option Value) (field : String) (diagnostic : Diagnostic) :
    Prop where
  /-- every link is at the field or below -/
  atOrBelow : ∀ link ∈ diagnostic.chain, AtOrBelow field link.field
  /-- a nested link has the path of what it wraps, and wraps no nested one -/
  nested : ∀ path cause, .nested path cause ∈ diagnostic.chain → path = cause.field ∧ cause.code ≠ .nested
  /-- the link of an array wraps the failure of its first rejected element -/
  element : ∀ path cause, .element path cause ∈ diagnostic.chain →
    ∃ value, value? = some value ∧ FirstRejected checker value field path cause
  /-- the diagnostic names the field of its root cause unless the chain goes through an array -/
  field_eq_iff : diagnostic.field = diagnostic.rootCause.field ↔ ∀ link ∈ diagnostic.chain, link.code ≠ .element
  /-- the text is that of the first link that is not a nested one -/
  message : ∃ link, diagnostic.chain.find? (fun link => link.code ≠ .nested) = some link ∧
    diagnostic.message = link.message

namespace Blueprint

/--
A validation fails with a well-built chain if all predicates of the caller report leaves at the field that they are
given. If moreover their texts contain this field, the text of the diagnostic contains the field that it names.
-/
theorem wellChained_of_validate_error {blueprint : Blueprint ν}
    (leaves : blueprint.build.Every (Rule.ReportsLeaves fun _ => True)) {value? : Option Value}
    (wellFormed : ∀ value, value? = some value → value.WellFormed) {field : String} {diagnostic : Diagnostic}
    (failure : (blueprint.build.validate value? field).result = .error diagnostic) :
    WellChained blueprint.build value? field diagnostic ∧
      (blueprint.build.Every (Rule.ReportsLeaves Diagnostic.Mentions) → diagnostic.Mentions) := by
  have own : ∀ diagnostic : Diagnostic, diagnostic.cause? = none → diagnostic.code ≠ .custom → True :=
    fun _ _ _ => trivial
  have chained := Checker.chained_of_validate_error own leaves failure
  have element : ∀ path cause, .element path cause ∈ diagnostic.chain →
      ∃ value, value? = some value ∧ FirstRejected blueprint.build value field path cause := by
    intro path cause member
    cases value? with
    | some value =>
        exact ⟨value, rfl, Checker.firstRejected_of_mem_chain own leaves blueprint.wellFormed_build
          (wellFormed value rfl) failure member⟩
    | none =>
        obtain ⟨-, rfl⟩ := checkAbsent_error failure
        have same := List.mem_singleton.mp member
        cases same
  constructor
  · exact {
      atOrBelow := fun link member => chained.atOrBelow_of_mem member
      nested := fun path cause member => chained.nested_of_mem member
      element := element
      field_eq_iff := chained.field_eq_rootCause_iff
      message := diagnostic.message_eq_of_chain }
  · intro mentioning
    have mentioned := Checker.chained_of_validate_error
      (fun diagnostic => Diagnostic.mentions_of_code_ne_custom) mentioning failure
    exact mentioned.mentions

/-- Accepts what is true. -/
def switchedOn : Predicate Unit := fun value field =>
  match value with
  | .bool true => .ok
  | _ => .fail (.custom field (field ++ " is off"))

/-- A blueprint of rows of switches under names. -/
def switchboard : Blueprint Unit := .objectOf (.arrayOf (.shape [("on", .custom switchedOn)]))

/-- The second switch of the only row is off. -/
def rowOfSwitches : Value := .plain [("a.b", .array [.plain [("on", .bool true)], .plain [("on", .bool false)]])]

/-- What is reported of that switch. -/
def secondSwitchOff : Diagnostic :=
  .nested "s.a.b" (.element "s.a.b" (.nested "s.a.b.1.on" (.custom "s.a.b.1.on" "s.a.b.1.on is off")))

theorem wellChained_rowOfSwitches :
    switchboard.build.Every (Rule.ReportsLeaves fun _ => True) ∧
      switchboard.build.Every (Rule.ReportsLeaves Diagnostic.Mentions) ∧ rowOfSwitches.WellFormed ∧
      (switchboard.build.validate (some rowOfSwitches) "s").result = .error secondSwitchOff ∧
      WellChained switchboard.build (some rowOfSwitches) "s" secondSwitchOff ∧ secondSwitchOff.Mentions := by
  have reports : ∀ P : Diagnostic → Prop, (∀ field, P (.custom field (field ++ " is off"))) →
      switchboard.build.Every (Rule.ReportsLeaves P) := by
    intro P admitted
    have leaf : (Rule.custom switchedOn).ReportsLeaves P := by
      rintro predicate same value field diagnostic failure
      cases same
      unfold switchedOn at failure
      split at failure
      · cases failure
      · cases failure
        exact ⟨rfl, rfl, admitted field⟩
    have others : ∀ rule : Rule Unit, rule.isCustom = false → rule.ReportsLeaves P := by
      rintro rule own predicate rfl
      cases own
    have inShape : (Checker.mk .shape false (.shape [("on", .custom switchedOn)])).Every (Rule.ReportsLeaves P) := by
      simpa [Checker.custom, Checker.new, Checker.every_mk_iff, Rule.parts, leaf] using others _ rfl
    have inArray : (Checker.arrayOf (.shape [("on", .custom switchedOn)])).Every (Rule.ReportsLeaves P) :=
      .mk (others _ rfl) fun part member => List.mem_singleton.mp member ▸ inShape
    exact .mk (others _ rfl) fun part member => List.mem_singleton.mp member ▸ inArray
  have leaves := reports (fun _ => True) fun _ => trivial
  have mentioning := reports Diagnostic.Mentions
    fun field => ⟨"", " is off", congrArg (· ++ " is off") String.empty_append.symm⟩
  have switch : ∀ b, (Value.plain [("on", .bool b)]).WellFormed := by
    intro b
    have flat : (Value.bool b).WellFormed := Value.wellFormed_leaf rfl rfl
    exact Value.wellFormed_plain (by simpa using flat)
  have row : (Value.array [.plain [("on", .bool true)], .plain [("on", .bool false)]]).WellFormed :=
    Value.wellFormed_array (by simp [switch])
  have wellFormed : rowOfSwitches.WellFormed := Value.wellFormed_plain (by simpa using row)
  have failure : (switchboard.build.validate (some rowOfSwitches) "s").result = .error secondSwitchOff := rfl
  have present : ∀ value, some rowOfSwitches = some value → value.WellFormed := by
    intro value same
    cases same
    exact wellFormed
  obtain ⟨chain, mentions⟩ := wellChained_of_validate_error leaves present failure
  exact ⟨leaves, mentioning, wellFormed, failure, chain, mentions mentioning⟩

end Blueprint

end RecordCheck
