import Mathlib.Data.List.Nodup
import Mathlib.Data.List.Perm.Subperm
import RecordCheck.Proofs.Checker.Acceptance

/-!
# The tree of classes

The `lineage` of a class lists the class and its ancestors up to the root. One class descends from another if and only
if its lineage ends in the other's (`Class.isSubclassOf_iff_isSuffix`), so descent is an order in which all ancestors
of a class are comparable. A history of definitions gives every class a serial number of its own and a parent from
before (`Class.Registry.Traceable`, kept by every step). Hence equality of classes is identity, whatever their names
are, and the search for an ancestor ends within as many rounds as there are classes
(`Class.Registry.treeOrdered_of_defined`).
-/

namespace RecordCheck

namespace Class

/-- The class and its ancestors, up to the root. -/
def lineage : Class → List Class
  | object => [object]
  | derived serial name parent => derived serial name parent :: parent.lineage

theorem lineage_eq_cons (cls : Class) : ∃ ancestors, cls.lineage = cls :: ancestors := by
  cases cls with
  | object => exact ⟨[], rfl⟩
  | derived serial name parent => exact ⟨parent.lineage, rfl⟩

theorem self_mem_lineage (cls : Class) : cls ∈ cls.lineage := by
  obtain ⟨ancestors, same⟩ := cls.lineage_eq_cons
  rw [same]
  exact List.mem_cons_self

theorem isSubclassOf_iff_mem_lineage {cls ancestor : Class} :
    cls.isSubclassOf ancestor = true ↔ ancestor ∈ cls.lineage := by
  induction cls with
  | object => simp [isSubclassOf, lineage, eq_comm]
  | derived serial name parent ih =>
      rw [isSubclassOf, lineage, Bool.or_eq_true, decide_eq_true_iff, ih, List.mem_cons]
      exact or_congr_left eq_comm

/-- The lineage of an ancestor is the rest of the lineage from there on. -/
theorem lineage_isSuffix_of_mem {cls ancestor : Class} (member : ancestor ∈ cls.lineage) :
    ancestor.lineage <:+ cls.lineage := by
  induction cls with
  | object =>
      obtain rfl := List.mem_singleton.mp member
      exact List.suffix_rfl
  | derived serial name parent ih =>
      rcases List.mem_cons.mp member with rfl | above
      · exact List.suffix_rfl
      · exact (ih above).trans (List.suffix_cons _ _)

theorem isSubclassOf_iff_isSuffix {cls ancestor : Class} :
    cls.isSubclassOf ancestor = true ↔ ancestor.lineage <:+ cls.lineage := by
  rw [isSubclassOf_iff_mem_lineage]
  constructor
  · exact lineage_isSuffix_of_mem
  · intro suffix
    exact suffix.subset ancestor.self_mem_lineage

theorem eq_of_lineage_eq {cls other : Class} (same : cls.lineage = other.lineage) : cls = other := by
  obtain ⟨ancestors, first⟩ := cls.lineage_eq_cons
  obtain ⟨ancestors', second⟩ := other.lineage_eq_cons
  rw [first, second] at same
  exact (List.cons.inj same).1

theorem isSubclassOf_refl (cls : Class) : cls.isSubclassOf cls = true :=
  isSubclassOf_iff_mem_lineage.mpr cls.self_mem_lineage

theorem isSubclassOf_trans {a b c : Class} (ab : a.isSubclassOf b = true) (bc : b.isSubclassOf c = true) :
    a.isSubclassOf c = true := by
  rw [isSubclassOf_iff_isSuffix] at ab bc ⊢
  exact bc.trans ab

theorem isSubclassOf_antisymm {a b : Class} (ab : a.isSubclassOf b = true) (ba : b.isSubclassOf a = true) :
    a = b := by
  rw [isSubclassOf_iff_isSuffix] at ab ba
  exact eq_of_lineage_eq (ba.eq_of_length_le ab.length_le)

/-- Both lineages are ends of one lineage, so one is an end of the other. -/
theorem isSubclassOf_total_above {cls a b : Class} (toA : cls.isSubclassOf a = true)
    (toB : cls.isSubclassOf b = true) : a.isSubclassOf b = true ∨ b.isSubclassOf a = true := by
  rw [isSubclassOf_iff_isSuffix] at toA toB ⊢
  rw [isSubclassOf_iff_isSuffix]
  exact (List.suffix_or_suffix_of_suffix toA toB).symm

theorem isSubclassOf_object (cls : Class) : cls.isSubclassOf object = true := by
  induction cls with
  | object => rfl
  | derived serial name parent ih => simp [isSubclassOf, ih]

theorem object_isSubclassOf_iff {ancestor : Class} : object.isSubclassOf ancestor = true ↔ object = ancestor := by
  simp [isSubclassOf]

/-- No class comes twice in a lineage, since the lineages get shorter on the way up. -/
theorem nodup_lineage (cls : Class) : cls.lineage.Nodup := by
  induction cls with
  | object => exact List.nodup_singleton object
  | derived serial name parent ih =>
      refine List.nodup_cons.mpr ⟨?_, ih⟩
      intro again
      have shorter := (lineage_isSuffix_of_mem again).length_le
      simp only [lineage, List.length_cons] at shorter
      omega

/--
The search for an ancestor, round by round: a round ends it with success or goes on to the parent, and where there is
none the search ends without success. `none` if it has not ended within the given number of rounds.
-/
def search (ancestor : Class) : Nat → Option Class → Option Bool
  | _, none => some false
  | 0, some _ => none
  | rounds + 1, some cls => if cls = ancestor then some true else search ancestor rounds cls.parent?

/-- The search ends within the length of the lineage, with the answer of the subclass test. -/
theorem search_eq {cls : Class} {rounds : Nat} (enough : cls.lineage.length ≤ rounds) (ancestor : Class) :
    search ancestor rounds (some cls) = some (cls.isSubclassOf ancestor) := by
  induction cls generalizing rounds with
  | object =>
      cases rounds with
      | zero => cases enough
      | succ rounds =>
          rw [search, isSubclassOf]
          by_cases here : object = ancestor
          · simp [here]
          · simp [here, parent?, search]
  | derived serial name parent ih =>
      cases rounds with
      | zero => cases enough
      | succ rounds =>
          rw [search, isSubclassOf]
          by_cases here : derived serial name parent = ancestor
          · simp [here]
          · simp [here, parent?, ih (Nat.le_of_succ_le_succ enough)]

namespace Registry

/-- All classes that there are: the root and those that were defined. -/
def known (registry : Registry) : List Class := object :: registry.classes

/-- A registry that a finite history of definitions leads to, each under a class known by then, with any name. -/
inductive Defined : Registry → Prop where
  | initial : Defined initial
  | define {registry : Registry} (before : Defined registry) (name : String) {parent : Class}
      (known : parent ∈ registry.known) : Defined (registry.define name parent).2

/-- Every class has the number of its definition as its serial number, and a parent from before. -/
def Traceable (registry : Registry) : Prop :=
  ∀ i cls, registry.classes[i]? = some cls →
    ∃ name parent, cls = derived i name parent ∧ parent ∈ object :: registry.classes.take i

theorem traceable_initial : initial.Traceable := by
  intro i cls found
  match i with
  | 0 =>
      cases found
      exact ⟨"Array", object, rfl, List.mem_cons_self⟩
  | 1 =>
      cases found
      exact ⟨"Function", object, rfl, List.mem_cons_self⟩
  | i + 2 => cases found

theorem Traceable.define {registry : Registry} (traceable : registry.Traceable) (name : String) {parent : Class}
    (known : parent ∈ registry.known) : (registry.define name parent).2.Traceable := by
  intro i cls found
  simp only [Registry.define, List.getElem?_append] at found ⊢
  split at found
  · rename_i before
    obtain ⟨name', parent', same, earlier⟩ := traceable i cls found
    refine ⟨name', parent', same, ?_⟩
    rwa [List.take_append_of_le_length (Nat.le_of_lt before)]
  · -- only the new class stands here
    rename_i later
    obtain ⟨here, new⟩ := List.getElem?_eq_some_iff.mp found
    have last : i = registry.classes.length := by
      simp only [List.length_singleton] at here
      omega
    subst last
    simp only [Nat.sub_self, List.getElem_cons_zero] at new
    refine ⟨name, parent, new.symm, ?_⟩
    rw [List.take_left']
    · exact known
    · rfl

theorem traceable_of_defined {registry : Registry} (defined : Defined registry) : registry.Traceable := by
  induction defined with
  | initial => exact traceable_initial
  | define before name known ih => exact ih.define name known

namespace Traceable

variable {registry : Registry}

/-- Definitions with different numbers are different classes. -/
theorem nodup_known (traceable : registry.Traceable) : registry.known.Nodup := by
  refine List.nodup_cons.mpr ⟨?_, ?_⟩
  · intro member
    obtain ⟨i, found⟩ := List.mem_iff_getElem?.mp member
    obtain ⟨name, parent, same, -⟩ := traceable i object found
    cases same
  · rw [List.nodup_iff_getElem?_ne_getElem?]
    intro i j before inside same
    obtain ⟨cls, found⟩ : ∃ cls, registry.classes[j]? = some cls := ⟨_, List.getElem?_eq_getElem inside⟩
    obtain ⟨name, parent, first, -⟩ := traceable i cls (same.trans found)
    obtain ⟨name', parent', second, -⟩ := traceable j cls found
    rw [first] at second
    cases second
    omega

/-- Ancestors of known classes are known. -/
theorem lineage_subset (traceable : registry.Traceable) {cls : Class} (known : cls ∈ registry.known) :
    cls.lineage ⊆ registry.known := by
  induction cls with
  | object =>
      intro ancestor member
      obtain rfl := List.mem_singleton.mp member
      exact known
  | derived serial name parent ih =>
      intro ancestor member
      rcases List.mem_cons.mp member with rfl | above
      · exact known
      · rcases List.mem_cons.mp known with root | inside
        · cases root
        · obtain ⟨i, found⟩ := List.mem_iff_getElem?.mp inside
          obtain ⟨name', parent', same, earlier⟩ := traceable i _ found
          cases same
          refine ih ?_ above
          rcases List.mem_cons.mp earlier with rfl | taken
          · exact List.mem_cons_self
          · exact List.mem_cons_of_mem _ (List.mem_of_mem_take taken)

theorem length_lineage_le (traceable : registry.Traceable) {cls : Class} (known : cls ∈ registry.known) :
    cls.lineage.length ≤ registry.known.length :=
  (List.subperm_of_subset cls.nodup_lineage (traceable.lineage_subset known)).length_le

end Traceable

/-- Subclass tests among all classes that there are. -/
structure TreeOrdered (registry : Registry) : Prop where
  /-- each definition is a class of its own, whatever its name is -/
  identity : registry.known.Nodup
  terminates : ∀ cls ∈ registry.known, ∀ ancestor,
    search ancestor registry.known.length (some cls) = some (cls.isSubclassOf ancestor)
  decides : ∀ cls ∈ registry.known, ∀ ancestor, cls.isSubclassOf ancestor = true ↔ cls.DescendsFrom ancestor
  refl : ∀ cls ∈ registry.known, cls.isSubclassOf cls = true
  trans : ∀ a ∈ registry.known, ∀ b ∈ registry.known, ∀ c ∈ registry.known,
    a.isSubclassOf b = true → b.isSubclassOf c = true → a.isSubclassOf c = true
  antisymm : ∀ a ∈ registry.known, ∀ b ∈ registry.known,
    a.isSubclassOf b = true → b.isSubclassOf a = true → a = b
  comparable : ∀ cls ∈ registry.known, ∀ a ∈ registry.known, ∀ b ∈ registry.known,
    cls.isSubclassOf a = true → cls.isSubclassOf b = true → a.isSubclassOf b = true ∨ b.isSubclassOf a = true
  root : ∀ cls ∈ registry.known, cls.isSubclassOf object = true
  rootOnly : ∀ cls ∈ registry.known, object.isSubclassOf cls = true → cls = object

end Registry

end Class

namespace Value

/-- Instances of a class are instances of the classes from which it descends. -/
theorem isInstanceOf_of_isSubclassOf {value : Value} {cls ancestor : Class} (instanceOf : value.isInstanceOf cls = true)
    (subclass : cls.isSubclassOf ancestor = true) : value.isInstanceOf ancestor = true := by
  rw [isInstanceOf_iff] at instanceOf ⊢
  obtain ⟨own, constructed, descends⟩ := instanceOf
  exact ⟨own, constructed, descends.trans (Class.isSubclassOf_iff.mp subclass)⟩

/-- Everything with a class is an instance of the root. -/
theorem isInstanceOf_object_iff {value : Value} :
    value.isInstanceOf Class.object = true ↔
      (∃ items, value = array items) ∨ (∃ cls fields, value = object cls fields) ∨ ∃ f, value = function f := by
  cases value with
  | array | object | function => simp [isInstanceOf, class?, Class.isSubclassOf_object]
  | _ => simp [isInstanceOf, class?]

end Value

/--
Whatever classes a history defines, they form a tree under the root, which the subclass test decides, and instances
follow it: they stay instances on the way up, for a checker as well, and what has a class is an instance of the root.
-/
theorem Class.Registry.treeOrdered_of_defined {ν : Type} {registry : Registry} (defined : Defined registry) :
    registry.TreeOrdered ∧
      ∀ value : Value,
        (∀ cls ∈ registry.known, ∀ ancestor ∈ registry.known, cls.isSubclassOf ancestor = true →
          (value.isInstanceOf cls = true → value.isInstanceOf ancestor = true) ∧
            ∀ field, ((Checker.instanceOf cls : Checker ν).check value field).result = .ok () →
              ((Checker.instanceOf ancestor : Checker ν).check value field).result = .ok ()) ∧
        (value.isInstanceOf object = true ↔
          (∃ items, value = .array items) ∨ (∃ cls fields, value = .object cls fields) ∨ ∃ f, value = .function f) := by
  have traceable := traceable_of_defined defined
  constructor
  · exact {
      identity := traceable.nodup_known
      terminates := fun cls known ancestor => search_eq (traceable.length_lineage_le known) ancestor
      decides := fun cls _ ancestor => isSubclassOf_iff
      refl := fun cls _ => isSubclassOf_refl cls
      trans := fun a _ b _ c _ => isSubclassOf_trans
      antisymm := fun a _ b _ => isSubclassOf_antisymm
      comparable := fun cls _ a _ b _ => isSubclassOf_total_above
      root := fun cls _ => isSubclassOf_object cls
      rootOnly := fun cls _ same => (object_isSubclassOf_iff.mp same).symm }
  · intro value
    refine ⟨?_, Value.isInstanceOf_object_iff⟩
    intro cls _ ancestor _ subclass
    have upwards : value.isInstanceOf cls = true → value.isInstanceOf ancestor = true :=
      fun instanceOf => Value.isInstanceOf_of_isSubclassOf instanceOf subclass
    refine ⟨upwards, ?_⟩
    intro field accepted
    apply (Rule.check_ok_iff_admits rfl rfl).mpr
    exact upwards ((Rule.check_ok_iff_admits rfl rfl).mp accepted)

namespace Class.Registry

/-- A class of a program that has the name of the root. -/
def otherObject : Class := derived 2 "Object" object

/-- A class below that one. -/
def error : Class := derived 3 "Error" otherObject

/-- A class below another one of the same name. -/
def innerError : Class := derived 4 "Error" error

/-- Three definitions after the built-in classes, with names that are taken. -/
def namesakes : Registry := ⟨[array, function, otherObject, error, innerError]⟩

theorem treeOrdered_namesakes :
    Defined namesakes ∧ namesakes.TreeOrdered ∧ innerError ∈ namesakes.known ∧ otherObject ∈ namesakes.known ∧
      innerError.isSubclassOf otherObject = true ∧ otherObject.isSubclassOf error = false ∧
      ((Checker.instanceOf innerError : Checker Unit).check (.object innerError []) "e").result = .ok () ∧
      ((Checker.instanceOf otherObject : Checker Unit).check (.object innerError []) "e").result = .ok () := by
  have defined : Defined namesakes := by
    have first : Defined ⟨[array, function, otherObject]⟩ :=
      .define .initial "Object" List.mem_cons_self
    have second : Defined ⟨[array, function, otherObject, error]⟩ :=
      .define first "Error" (by decide)
    exact .define second "Error" (by decide)
  have known : innerError ∈ namesakes.known := by decide
  have known' : otherObject ∈ namesakes.known := by decide
  have subclass : innerError.isSubclassOf otherObject = true := by decide
  obtain ⟨ordered, instances⟩ := @treeOrdered_of_defined Unit namesakes defined
  have accepted := ((instances (.object innerError [])).1 innerError known otherObject known' subclass).2 "e" rfl
  exact ⟨defined, ordered, known, known', subclass, rfl, rfl, accepted⟩

end Class.Registry

end RecordCheck
