import RecordCheck.Proofs.Checker.Blueprint
import RecordCheck.Proofs.Checker.Visit
import RecordCheck.Proofs.Class

/-!
# What checkers accept

A `Blueprint` says how a checker is put together from the constructors of the library. Its meaning is the set of
accepted values, present or absent, given by recursion on the blueprint (`Blueprint.Accepts`). The main statement is
that the checker built from a blueprint accepts this set and nothing else (`Blueprint.validate_build_ok_iff`).
-/

namespace RecordCheck

variable {ν : Type}

theorem Checker.validate_none_ok_iff {checker : Checker ν} {field : String} :
    (checker.validate none field).result = .ok () ↔ checker.isRequired = false := by
  simp only [validate, checkAbsent]
  cases checker.isRequired with
  | false => simp [Traced.ok]
  | true => simp [Traced.fail]

namespace Rule

/-- A rule without parts accepts what it admits. -/
theorem check_ok_iff_admits {rule : Rule ν} (all : rule.needsAll = true) (leaf : rule.parts = [])
    {value : Value} {field : String} : (rule.check value field).result = .ok () ↔ rule.admits value = true := by
  rw [check_ok_iff all]
  apply and_iff_left
  intro visit member
  have inside := checker_mem_parts member
  rw [leaf] at inside
  cases inside

theorem check_arrayOf_ok_iff {element : Checker ν} {value : Value} {field : String} :
    ((arrayOf element).check value field).result = .ok () ↔
      ∃ items, value = .array items ∧
        ∀ (i : Nat) item, items[i]? = some item → (element.check item (child field i.repr)).result = .ok () := by
  rw [check_ok_iff rfl]
  constructor
  · rintro ⟨isArray, passed⟩
    refine ⟨value.items, Value.eq_array_of_isArray isArray, ?_⟩
    intro i item found
    have member : (item, i) ∈ value.items.zipIdx := List.mem_zipIdx_iff_getElem?.mpr found
    exact passed _ (List.mem_map.mpr ⟨(item, i), member, rfl⟩)
  · rintro ⟨items, rfl, passed⟩
    refine ⟨rfl, List.forall_mem_map.mpr ?_⟩
    intro part member
    exact passed part.2 part.1 (List.mem_zipIdx_iff_getElem?.mp member)

theorem check_objectOf_ok_iff {element : Checker ν} {value : Value} {field : String} :
    ((objectOf element).check value field).result = .ok () ↔
      ∃ cls entries, value = .object cls entries ∧
        ∀ name item, (name, item) ∈ entries → (element.check item (child field name)).result = .ok () := by
  rw [check_ok_iff rfl]
  constructor
  · rintro ⟨isObject, passed⟩
    obtain ⟨cls, same⟩ := Value.eq_object_of_isObject isObject
    refine ⟨cls, value.entries, same, ?_⟩
    intro name item member
    exact passed _ (List.mem_map.mpr ⟨(name, item), member, rfl⟩)
  · rintro ⟨cls, entries, rfl, passed⟩
    exact ⟨rfl, List.forall_mem_map.mpr fun part member => passed part.1 part.2 member⟩

theorem check_shape_ok_iff {fields : List (String × Checker ν)} {value : Value} {field : String} :
    ((shape fields).check value field).result = .ok () ↔
      ∃ cls entries, value = .object cls entries ∧
        ∀ name declared, (name, declared) ∈ fields →
          (declared.validate (entries.lookup name) (child field name)).result = .ok () := by
  rw [check_ok_iff rfl]
  constructor
  · rintro ⟨(isObject : value.isObject = true), passed⟩
    obtain ⟨cls, same⟩ := Value.eq_object_of_isObject isObject
    simp only [visits, if_pos isObject] at passed
    refine ⟨cls, value.entries, same, ?_⟩
    intro name declared member
    exact passed _ (List.mem_map.mpr ⟨(name, declared), member, rfl⟩)
  · rintro ⟨cls, entries, rfl, passed⟩
    exact ⟨rfl, List.forall_mem_map.mpr fun part member => passed part.1 part.2 member⟩

end Rule

namespace Blueprint

/--
The values that a blueprint stands for: an absent one unless it is required, and a present one by recursion. Of the
fields of a shape with one name the last one counts; a declared field that the object lacks is absent.
-/
def Accepts : Blueprint ν → Option Value → String → Prop
  | blueprint, none, _ => blueprint.isRequired = false
  | any, some _, _ => True
  | array, some value, _ => ∃ items, value = .array items
  | typed _ tag, some value, _ => value.typeName = tag.text
  | arrayOf element, some value, field =>
      ∃ items, value = .array items ∧
        ∀ (i : Nat) item, items[i]? = some item → element.Accepts (some item) (child field i.repr)
  | objectOf element, some value, field =>
      ∃ cls entries, value = .object cls entries ∧
        ∀ name item, (name, item) ∈ entries → element.Accepts (some item) (child field name)
  | oneOf allowed, some value, _ => ∃ candidate ∈ allowed, candidate.strictEq value = true
  | oneOfType alternatives, some value, field =>
      ∃ alternative, ∃ _ : alternative ∈ alternatives, alternative.Accepts (some value) field
  | shape fields, some value, field =>
      ∃ cls entries, value = .object cls entries ∧
        ∀ name declared, (_ : lastGiven? name fields = some declared) →
          declared.Accepts (entries.lookup name) (child field name)
  | instanceOf cls, some value, _ => ∃ own, value.class? = some own ∧ own.DescendsFrom cls
  | custom predicate, some value, field => (predicate value field).result = .ok ()
  | required inner, some value, field => inner.Accepts (some value) field
termination_by blueprint => sizeOf blueprint
decreasing_by
  · exact sizeOf_lt_of_mem_parts (List.mem_singleton_self element)
  · exact sizeOf_lt_of_mem_parts (List.mem_singleton_self element)
  · exact sizeOf_lt_of_mem_parts (show _ ∈ (oneOfType alternatives).parts from ‹_›)
  · exact sizeOf_lt_of_mem_parts (mem_parts_shape ‹_›)
  · exact sizeOf_lt_of_mem_parts (List.mem_singleton_self inner)

theorem validate_none_build_ok_iff {blueprint : Blueprint ν} {field : String} :
    (blueprint.build.validate none field).result = .ok () ↔ blueprint.isRequired = false := by
  rw [Checker.validate_none_ok_iff, isRequired_build]

/-- A declared field of a shape passes as its blueprint says, if it does so when it is present. -/
theorem validate_build_ok_of_present {blueprint : Blueprint ν} {value? : Option Value} {field : String}
    (present : ∀ value, (blueprint.build.check value field).result = .ok () ↔
      blueprint.Accepts (some value) field) :
    (blueprint.build.validate value? field).result = .ok () ↔ blueprint.Accepts value? field := by
  cases value? with
  | none => rw [validate_none_build_ok_iff, Accepts]
  | some value => exact present value

/-- A present value passes the checker that is built if and only if the blueprint stands for it. -/
theorem check_build_ok_iff (blueprint : Blueprint ν) (value : Value) (field : String) :
    (blueprint.build.check value field).result = .ok () ↔ blueprint.Accepts (some value) field := by
  induction blueprint using tree_induction generalizing value field with
  | step blueprint ih =>
    cases blueprint with
    | any =>
        rw [Accepts]
        exact iff_of_true rfl trivial
    | array =>
        rw [Accepts]
        refine (Rule.check_ok_iff_admits rfl rfl).trans ⟨?_, ?_⟩
        · intro isArray
          exact ⟨value.items, Value.eq_array_of_isArray isArray⟩
        · rintro ⟨items, rfl⟩
          rfl
    | typed kind tag =>
        rw [Accepts]
        exact (Rule.check_ok_iff_admits rfl rfl).trans decide_eq_true_iff
    | arrayOf element =>
        rw [Accepts]
        refine Rule.check_arrayOf_ok_iff.trans ?_
        simp only [ih element (List.mem_singleton_self element)]
    | objectOf element =>
        rw [Accepts]
        refine Rule.check_objectOf_ok_iff.trans ?_
        simp only [ih element (List.mem_singleton_self element)]
    | oneOf allowed =>
        rw [Accepts]
        exact (Rule.check_ok_iff_admits rfl rfl).trans List.any_eq_true
    | oneOfType alternatives =>
        rw [Accepts]
        refine Rule.check_oneOfType_ok_iff.trans ?_
        rw [buildAll_eq_map]
        constructor
        · rintro ⟨checker, member, passed⟩
          obtain ⟨alternative, inside, rfl⟩ := List.mem_map.mp member
          exact ⟨alternative, inside, (ih alternative inside value field).mp passed⟩
        · rintro ⟨alternative, inside, accepted⟩
          have passed := (ih alternative inside value field).mpr accepted
          exact ⟨alternative.build, List.mem_map_of_mem inside, passed⟩
    | shape fields =>
        rw [Accepts]
        refine Rule.check_shape_ok_iff.trans ?_
        refine exists_congr fun cls => exists_congr fun entries => and_congr_right fun _ => ?_
        simp only [buildFields_eq_map, mem_collect_iff, lastGiven?_map, Option.map_eq_some_iff,
          forall_exists_index, and_imp, forall_apply_eq_imp_iff₂]
        refine forall_congr' fun name => forall_congr' fun declared => forall_congr' fun given => ?_
        apply validate_build_ok_of_present
        intro item
        exact ih declared (mem_parts_shape given) item (child field name)
    | instanceOf cls =>
        rw [Accepts]
        exact (Rule.check_ok_iff_admits rfl rfl).trans Value.isInstanceOf_iff
    | custom predicate =>
        rw [Accepts]
        exact Iff.rfl
    | required inner =>
        rw [build, check_required, Accepts]
        exact ih inner (List.mem_singleton_self inner) value field

/-- The checker that is built accepts the values that its blueprint stands for, and no others. -/
theorem validate_build_ok_iff (blueprint : Blueprint ν) (value? : Option Value) (field : String) :
    (blueprint.build.validate value? field).result = .ok () ↔ blueprint.Accepts value? field := by
  apply validate_build_ok_of_present
  intro value
  exact check_build_ok_iff blueprint value field

end Blueprint

end RecordCheck
