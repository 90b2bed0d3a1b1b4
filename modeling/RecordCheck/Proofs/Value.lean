import RecordCheck.Proofs.Record
import RecordCheck.Value

/-!
# Values as trees

The items of an array and the values of an object's fields are the `parts` of a value. `Value.Every` says of a whole
tree what its values have in common; a value is well-formed if the fields of every object in it have distinct names,
as they have in every object that collects its fields (`Value.wellFormed_instanceOf`).
-/

namespace RecordCheck.Value

/-- Whether the value is an array. -/
def isArray : Value → Bool
  | array _ => true
  | _ => false

/-- Whether the value is an object. -/
def isObject : Value → Bool
  | object _ _ => true
  | _ => false

/-- The items of an array; other values have none. -/
def items : Value → List Value
  | array items => items
  | _ => []

/-- The fields of an object; other values have none. -/
def entries : Value → List (String × Value)
  | object _ entries => entries
  | _ => []

/-- The items and the values of the fields. -/
def parts (value : Value) : List Value := value.items ++ value.entries.map Prod.snd

/-- The name of the value in a test for objects, where null and arrays go by their own names. -/
def containerName : Value → String
  | null => "null"
  | array _ => "array"
  | other => other.typeName

theorem eq_array_of_isArray {value : Value} (isArray : value.isArray = true) : value = array value.items := by
  cases value with
  | array => rfl
  | _ => cases isArray

theorem eq_object_of_isObject {value : Value} (isObject : value.isObject = true) :
    ∃ cls, value = object cls value.entries := by
  cases value with
  | object cls entries => exact ⟨cls, rfl⟩
  | _ => cases isObject

theorem sizeOf_lt_of_mem_parts {value part : Value} (member : part ∈ value.parts) :
    sizeOf part < sizeOf value := by
  cases value with
  | array xs =>
      have inside : part ∈ xs := by simpa [parts, items, entries] using member
      have smaller : sizeOf part < sizeOf xs := List.sizeOf_lt_of_mem inside
      simp only [array.sizeOf_spec]
      omega
  | object cls fields =>
      have inFields : part ∈ fields.map Prod.snd := member
      obtain ⟨⟨name, item⟩, inside, rfl⟩ := List.mem_map.mp inFields
      have smaller := List.sizeOf_lt_of_mem inside
      simp only [object.sizeOf_spec, Prod.mk.sizeOf_spec] at smaller ⊢
      omega
  | _ => cases member

/-- What the parts of a value hand on to it holds of every value. -/
@[elab_as_elim]
theorem tree_induction {motive : Value → Prop}
    (step : ∀ value, (∀ part ∈ value.parts, motive part) → motive value) (value : Value) : motive value :=
  step value fun part _ => tree_induction step part
termination_by sizeOf value
decreasing_by exact sizeOf_lt_of_mem_parts ‹part ∈ value.parts›

/-- Every value in the tree satisfies `P`. -/
inductive Every (P : Value → Prop) : Value → Prop where
  | mk {value : Value} (here : P value) (below : ∀ part ∈ value.parts, Every P part) : Every P value

theorem every_iff {P : Value → Prop} {value : Value} :
    Every P value ↔ P value ∧ ∀ part ∈ value.parts, Every P part := by
  constructor
  · rintro ⟨here, below⟩
    exact ⟨here, below⟩
  · rintro ⟨here, below⟩
    exact .mk here below

theorem Every.mono {P Q : Value → Prop} {value : Value} (every : Every P value)
    (weaker : ∀ value, P value → Q value) : Every Q value := by
  induction every with
  | mk here below ih => exact .mk (weaker _ here) ih

/-- The fields of every object in the tree have distinct names. -/
def WellFormed : Value → Prop := Every fun value => (keysOf value.entries).Nodup

theorem mem_parts_of_getElem? {value item : Value} {i : Nat} (found : value.items[i]? = some item) :
    item ∈ value.parts :=
  List.mem_append_left _ (List.mem_of_getElem? found)

theorem mem_parts_of_mem_entries {value item : Value} {name : String} (member : (name, item) ∈ value.entries) :
    item ∈ value.parts :=
  List.mem_append_right _ (List.mem_map.mpr ⟨(name, item), member, rfl⟩)

theorem wellFormed_leaf {value : Value} (items : value.items = []) (entries : value.entries = []) :
    value.WellFormed := by
  refine .mk ?_ ?_
  · rw [entries]
    exact List.nodup_nil
  · intro part member
    rw [parts, items, entries] at member
    cases member

/-- An object that collects well-formed values is well-formed. -/
theorem wellFormed_instanceOf (cls : Class) {pairs : List (String × Value)}
    (each : ∀ pair ∈ pairs, pair.2.WellFormed) : (instanceOf cls pairs).WellFormed := by
  refine .mk (nodup_keysOf_collect pairs) ?_
  intro part member
  obtain ⟨⟨name, item⟩, inside, rfl⟩ := List.mem_map.mp member
  exact each (name, item) (mem_of_lastGiven? (mem_collect_iff.mp inside))

theorem wellFormed_plain {pairs : List (String × Value)} (each : ∀ pair ∈ pairs, pair.2.WellFormed) :
    (plain pairs).WellFormed := wellFormed_instanceOf Class.object each

theorem wellFormed_array {items : List Value} (each : ∀ item ∈ items, item.WellFormed) :
    (array items).WellFormed := by
  refine .mk List.nodup_nil ?_
  intro part member
  rw [parts, List.mem_append] at member
  rcases member with inside | none
  · exact each part inside
  · cases none

end RecordCheck.Value
