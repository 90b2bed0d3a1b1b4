import RecordCheck.Proofs.Checker.Agreement

/-!
# What the flag of required presence does

A checker inside a checker is found along `Place`s, and `Checker.flagged` sets the flag of the one at a path. A check
meets no flags but those of a shape's fields, and these only where an object lacks the field. A change of a flag that
is not met (`Unmet`) changes neither the result nor the runs: one change by `Checker.check_flagged`, any number of them
by `Checker.required_only_absent`.
-/

namespace RecordCheck

variable {ν : Type}

/-- Where a checker stands in the rule that holds it. -/
inductive Place where
  /-- applied to the elements of an array -/
  | element
  /-- applied to all fields of an object -/
  | entry
  /-- one of the alternatives of a union -/
  | alternative (i : Nat)
  /-- declared for a field of a shape -/
  | field (name : String)
deriving DecidableEq

/-- The values that the checker at a place is applied to. -/
def Place.parts : Place → Value → List Value
  | element, value => value.items
  | entry, value => value.entries.map Prod.snd
  | alternative _, value => [value]
  | field name, value => (value.entries.lookup name).toList

/-- The values that the checker at the end of a path is applied to. -/
def reached : List Place → Value → List Value
  | [], value => [value]
  | place :: rest, value => (place.parts value).flatMap (reached rest)

/-- A flag to be set for the checker at a path. -/
structure FlagChange where
  path : List Place
  isRequired : Bool

namespace Rule

/-- Changes the checker at a place; a rule without the place stays as it is. -/
def modify (change : Checker ν → Checker ν) : Place → Rule ν → Rule ν
  | .element, arrayOf element => arrayOf (change element)
  | .entry, objectOf element => objectOf (change element)
  | .alternative i, oneOfType alternatives => oneOfType (alternatives.modify i change)
  | .field name, shape fields =>
      shape (fields.map fun field => (field.1, if field.1 = name then change field.2 else field.2))
  | _, rule => rule

end Rule

namespace Checker

/-- Sets the flag of the checker at a path, and nothing else. -/
def flagged (isRequired : Bool) : List Place → Checker ν → Checker ν
  | [], mk kind _ rule => mk kind isRequired rule
  | place :: rest, mk kind flag rule => mk kind flag (rule.modify (flagged isRequired rest) place)

/-- To make a checker required is to set its own flag. -/
theorem flagged_nil_true (checker : Checker ν) : checker.flagged true [] = checker.required := by
  cases checker with
  | mk => rfl

theorem kind_flagged (isRequired : Bool) (path : List Place) (checker : Checker ν) :
    (checker.flagged isRequired path).kind = checker.kind := by
  cases checker with
  | mk =>
      cases path with
      | nil => rfl
      | cons => rfl

/-- The flag of a checker is not that of the checkers inside of it. -/
theorem isRequired_flagged_cons (isRequired : Bool) (place : Place) (rest : List Place) (checker : Checker ν) :
    (checker.flagged isRequired (place :: rest)).isRequired = checker.isRequired := by
  cases checker with
  | mk => rfl

end Checker

/--
No absent value meets the flag at the end of a path: it is not the flag of a field of a shape, or all objects in which
the field is looked up have it.
-/
def Unmet (path : List Place) (value : Value) : Prop :=
  ∀ before name, path = before ++ [.field name] →
    ∀ object ∈ reached before value, object.isObject = true → name ∈ keysOf object.entries

namespace Unmet

/-- The flag of a checker that is not that of a field is met by no absent value. -/
theorem of_not_field {path : List Place} (other : ∀ name, path.getLast? ≠ some (.field name)) (value : Value) :
    Unmet path value := by
  rintro before name rfl
  exact absurd List.getLast?_concat (other name)

/-- The flag of a field is met by no absent value if all objects at its shape have the field. -/
theorem of_field {before : List Place} {name : String} {value : Value}
    (known : ∀ object ∈ reached before value, object.isObject = true → name ∈ keysOf object.entries) :
    Unmet (before ++ [.field name]) value := by
  intro before' name' same
  obtain ⟨rfl, last⟩ := List.append_inj' same rfl
  cases last
  exact known

variable {place : Place} {rest : List Place} {value : Value}

/-- What holds at the value holds further down the path. -/
theorem of_part (unmet : Unmet (place :: rest) value) {part : Value} (member : part ∈ place.parts value) :
    Unmet rest part := by
  intro before name same object inside
  apply unmet (place :: before) name (by rw [same, List.cons_append]) object
  exact List.mem_flatMap.mpr ⟨part, member, inside⟩

/-- An object without the field meets no flag of the field's own checker. -/
theorem ne_nil_of_absent {name : String} (unmet : Unmet (.field name :: rest) value) (isObject : value.isObject = true)
    (absent : value.entries.lookup name = none) : rest ≠ [] := by
  rintro rfl
  have known := unmet [] name rfl value (List.mem_singleton_self value) isObject
  obtain ⟨part, found⟩ := mem_keysOf_iff.mp known
  rw [absent] at found
  cases found

end Unmet

/-- A visit with another checker agrees if checks of the part do, or else the flags on its absence. -/
theorem Visit.agree_of_checker {checker checker' : Checker ν} {value? : Option Value} {field : String}
    (present : ∀ part, value? = some part →
      checker.check part field = checker'.check part field ∧ checker.runs part field = checker'.runs part field)
    (absent : value? = none → checker.isRequired = checker'.isRequired) :
    Visit.Agree ⟨checker, value?, field⟩ ⟨checker', value?, field⟩ := by
  cases value? with
  | none => exact ⟨by simp only [Visit.verdict, Checker.validate, absent rfl], rfl⟩
  | some part =>
      obtain ⟨check, runs⟩ := present part rfl
      exact ⟨congrArg Traced.result check, runs⟩

/-- A list of which one item is changed is related to the list if the changed item is. -/
private theorem forall₂_modify {α : Type} {R : α → α → Prop} {change : α → α} (unchanged : ∀ item, R item item)
    (changed : ∀ item, R (change item) item) (i : Nat) (items : List α) :
    List.Forall₂ R (items.modify i change) items := by
  induction items generalizing i with
  | nil =>
      rw [List.modify_nil]
      exact .nil
  | cons item rest ih =>
      cases i with
      | zero => exact .cons (changed item) (List.forall₂_same.mpr fun later _ => unchanged later)
      | succ i => exact .cons (unchanged item) (ih i)

namespace Rule

theorem Reports.unique {rule : Rule ν} {value : Value} {field : String} {report report' : Diagnostic}
    (reported : Reports value field rule report) (reported' : Reports value field rule report') :
    report = report' := by
  cases reported with
  | _ =>
      cases reported'
      rfl

variable {change : Checker ν → Checker ν} {place : Place} {rule : Rule ν} {value : Value}

theorem modify_of_custom (own : rule.isCustom = true) : rule.modify change place = rule := by
  cases rule with
  | custom =>
      cases place with
      | _ => rfl
  | _ => cases own

/-- A change of a checker that keeps its name is not reported. -/
theorem Reports.of_modify {field : String} {report : Diagnostic}
    (named : ∀ checker, (change checker).name = checker.name)
    (reported : Reports value field (rule.modify change place) report) : Reports value field rule report := by
  cases place with
  | element =>
      cases rule with
      | arrayOf element =>
          cases reported
          exact .arrayOf element
      | _ => exact reported
  | entry =>
      cases rule with
      | objectOf element =>
          cases reported
          exact .objectOf element
      | _ => exact reported
  | alternative i =>
      cases rule with
      | oneOfType alternatives =>
          cases reported
          have names : (alternatives.modify i change).map Checker.name = alternatives.map Checker.name := by
            rw [← List.forall₂_eq_eq_eq, List.forall₂_map_left_iff, List.forall₂_map_right_iff]
            apply forall₂_modify
            · intro checker
              rfl
            · exact named
          rw [names]
          exact .oneOfType alternatives
      | _ => exact reported
  | field name =>
      cases rule with
      | shape fields =>
          cases reported
          exact .shape fields
      | _ => exact reported

/-- Visits agree, of a rule and of the rule with a changed checker, if the change shows in no part. -/
theorem forall₂_visits_modify (field : String)
    (present : ∀ part ∈ place.parts value, ∀ checker field,
      (change checker).check part field = checker.check part field ∧
        (change checker).runs part field = checker.runs part field)
    (absent : ∀ name, place = .field name → value.isObject = true → value.entries.lookup name = none →
      ∀ checker, (change checker).isRequired = checker.isRequired) :
    List.Forall₂ Visit.Agree ((rule.modify change place).visits value field) (rule.visits value field) := by
  have same : ∀ visits : List (Visit ν), List.Forall₂ Visit.Agree visits visits :=
    fun visits => List.forall₂_same.mpr fun visit _ => .refl visit
  cases place with
  | element =>
      cases rule with
      | arrayOf element =>
          refine List.forall₂_map_left_iff.mpr (List.forall₂_map_right_iff.mpr (List.forall₂_same.mpr ?_))
          rintro ⟨item, i⟩ member
          apply Visit.agree_of_checker
          · rintro part ⟨⟩
            exact present item (List.mem_of_getElem? (List.mem_zipIdx_iff_getElem?.mp member)) element _
          · nofun
      | _ => exact same _
  | entry =>
      cases rule with
      | objectOf element =>
          refine List.forall₂_map_left_iff.mpr (List.forall₂_map_right_iff.mpr (List.forall₂_same.mpr ?_))
          rintro ⟨key, item⟩ member
          apply Visit.agree_of_checker
          · rintro part ⟨⟩
            exact present item (List.mem_map.mpr ⟨(key, item), member, rfl⟩) element _
          · nofun
      | _ => exact same _
  | alternative i =>
      cases rule with
      | oneOfType alternatives =>
          refine List.forall₂_map_left_iff.mpr (List.forall₂_map_right_iff.mpr ?_)
          refine forall₂_modify (fun alternative => .refl _) ?_ i alternatives
          intro alternative
          apply Visit.agree_of_checker
          · rintro part ⟨⟩
            exact present value (List.mem_singleton_self value) alternative field
          · nofun
      | _ => exact same _
  | field name =>
      cases rule with
      | shape fields =>
          simp only [modify, visits]
          split
          · rename_i isObject
            rw [List.map_map]
            refine List.forall₂_map_left_iff.mpr (List.forall₂_map_right_iff.mpr (List.forall₂_same.mpr ?_))
            rintro ⟨key, checker⟩ -
            by_cases here : key = name
            · subst here
              simp only [Function.comp_apply, if_true]
              apply Visit.agree_of_checker
              · intro part found
                exact present part (Option.mem_toList.mpr found) checker _
              · intro lacking
                exact absent key rfl isObject lacking checker
            · simp only [Function.comp_apply, if_neg here]
              exact .refl _
          · exact .nil
      | _ => exact same _

/-- A rule agrees with the rule in which a checker is changed, if the change shows neither in a part nor in a name. -/
theorem agree_modify (own : rule.isCustom = false) (field : String)
    (named : ∀ checker, (change checker).name = checker.name)
    (visits : List.Forall₂ Visit.Agree ((rule.modify change place).visits value field) (rule.visits value field)) :
    (rule.modify change place).Agree rule value field := by
  have reports : ∀ report report', Reports value field (rule.modify change place) report →
      Reports value field rule report' → report = report' :=
    fun report report' reported reported' => (reported.of_modify named).unique reported'
  cases place with
  | _ =>
      cases rule with
      | custom => cases own
      | _ => exact ⟨rfl, rfl, rfl, rfl, reports, rfl, visits⟩

end Rule

namespace Checker

theorem name_flagged (isRequired : Bool) (path : List Place) (checker : Checker ν) :
    (checker.flagged isRequired path).name = checker.name :=
  congrArg Kind.text (kind_flagged isRequired path checker)

/-- A flag that no absent value meets can be set or dropped: the result and the runs stay the same. -/
theorem check_flagged (isRequired : Bool) {path : List Place} {value : Value} (unmet : Unmet path value)
    (checker : Checker ν) (field : String) :
    (checker.flagged isRequired path).check value field = checker.check value field ∧
      (checker.flagged isRequired path).runs value field = checker.runs value field := by
  induction path generalizing checker value field with
  | nil =>
      cases checker with
      | mk kind flag rule =>
          refine ⟨rfl, ?_⟩
          rw [flagged, runs_mk, runs_mk]
  | cons place rest ih =>
      obtain ⟨kind, flag, rule⟩ := checker
      rw [flagged]
      cases own : rule.isCustom with
      | true =>
          rw [Rule.modify_of_custom own]
          exact ⟨rfl, rfl⟩
      | false =>
          have visits : List.Forall₂ Visit.Agree ((rule.modify (flagged isRequired rest) place).visits value field)
              (rule.visits value field) := by
            apply Rule.forall₂_visits_modify
            · intro part member checker field
              exact ih (unmet.of_part member) checker field
            · -- the flag of the field itself is never set where an object lacks the field
              rintro name rfl isObject absent checker
              cases rest with
              | nil => exact absurd rfl (unmet.ne_nil_of_absent isObject absent)
              | cons next rest => exact isRequired_flagged_cons isRequired next rest checker
          have agree := Rule.agree_modify own field (name_flagged isRequired rest) visits
          exact ⟨agree.check_eq, agree.runs_eq kind kind flag flag⟩

/-- Sets the flags of any number of checkers in the tree, one after the other. -/
def reflagged (changes : List FlagChange) (checker : Checker ν) : Checker ν :=
  changes.foldl (fun checker change => checker.flagged change.isRequired change.path) checker

theorem check_reflagged {changes : List FlagChange} {value : Value}
    (unmet : ∀ change ∈ changes, Unmet change.path value) (checker : Checker ν) (field : String) :
    (checker.reflagged changes).check value field = checker.check value field ∧
      (checker.reflagged changes).runs value field = checker.runs value field := by
  induction changes generalizing checker with
  | nil => exact ⟨rfl, rfl⟩
  | cons change rest ih =>
      obtain ⟨here, later⟩ := List.forall_mem_cons.mp unmet
      obtain ⟨check, runs⟩ := check_flagged change.isRequired here checker field
      obtain ⟨check', runs'⟩ := ih later (checker.flagged change.isRequired change.path)
      exact ⟨check'.trans check, runs'.trans runs⟩

/--
Flags that no absent value meets can be changed anywhere in a tree: the validation of a present value comes to the
same result with the same notes and runs. An absent value is judged by the flag of the checker itself, whatever its
rule is, and no predicate runs.
-/
theorem required_only_absent (checker : Checker ν) (field : String) :
    (∀ (changes : List FlagChange) (value : Value), (∀ change ∈ changes, Unmet change.path value) →
        (checker.reflagged changes).validate (some value) field = checker.validate (some value) field ∧
          (checker.reflagged changes).runs value field = checker.runs value field) ∧
      checker.validate none field = ⟨if checker.isRequired then .error (.missing field) else .ok (), []⟩ ∧
      Visit.runs ⟨checker, none, field⟩ = [] := by
  refine ⟨?_, ?_, rfl⟩
  · intro changes value unmet
    exact check_reflagged unmet checker field
  · simp only [validate, checkAbsent]
    cases checker.isRequired with
    | false => rfl
    | true => rfl

/-- The flag of a field is met where an object lacks the field. -/
example :
    ((shape [("id", (number : Checker Unit))]).check (.plain []) "p").result = .ok () ∧
      (((shape [("id", (number : Checker Unit))]).flagged true [.field "id"]).check (.plain []) "p").result =
        .error (.nested "p.id" (.missing "p.id")) := ⟨rfl, rfl⟩

/-- Parcels, each of them a label or an object with a weight and with stamps, which are noted. -/
def parcels : Checker String :=
  .arrayOf (.oneOfType [.string, .shape [("weight", .number),
    ("stamps", .arrayOf (.custom fun _ field => ⟨.ok (), [field]⟩))]])

/-- The flags of all parcels, of their labels, of the weights and of the single stamps are set. -/
def parcelChanges : List FlagChange :=
  [⟨[], true⟩, ⟨[.element], true⟩, ⟨[.element, .alternative 0], true⟩,
    ⟨[.element, .alternative 1, .field "weight"], true⟩,
    ⟨[.element, .alternative 1, .field "stamps", .element], true⟩]

/-- The second parcel has a weight and the third has none, but is no object. -/
def shipment : Value :=
  .array [.string "a", .plain [("weight", .ofInt 2), ("stamps", .array [.null, .ofInt 1])], .null]

theorem required_only_absent_shipment :
    (∀ change ∈ parcelChanges, Unmet change.path shipment) ∧
      (parcels.reflagged parcelChanges).isRequired = true ∧
      (parcels.reflagged parcelChanges).validate (some shipment) "p" = parcels.validate (some shipment) "p" ∧
      (parcels.validate (some shipment) "p").notes = ["p.1.stamps.0", "p.1.stamps.1"] := by
  have unmet : ∀ change ∈ parcelChanges, Unmet change.path shipment := by
    intro change member
    simp only [parcelChanges, List.mem_cons, List.not_mem_nil, or_false] at member
    rcases member with rfl | rfl | rfl | rfl | rfl
    · exact .of_not_field (by simp) shipment
    · exact .of_not_field (by simp) shipment
    · exact .of_not_field (by simp) shipment
    · -- the only object among the parcels has a weight
      have known : ∀ object ∈ reached [.element, .alternative 1] shipment,
          object.isObject = true → "weight" ∈ keysOf object.entries := by
        intro object member isObject
        simp only [reached, shipment, Place.parts, Value.items, List.flatMap_cons, List.flatMap_nil,
          List.append_nil, List.mem_append, List.mem_singleton] at member
        rcases member with rfl | rfl | rfl
        · cases isObject
        · decide
        · cases isObject
      exact .of_field known
    · exact .of_not_field (by simp) shipment
  exact ⟨unmet, rfl, ((parcels.required_only_absent "p").1 parcelChanges shipment unmet).1, rfl⟩

end Checker

end RecordCheck
