import RecordCheck.Proofs.Json.Tree
import RecordCheck.Proofs.Value.NaNFree

/-!
# The value of a document is its image

`Json.Image` says of a document and a value that they are the same tree: the same constructor at every node, the same
items and names in the same order, and for each number the double that it stands for. A well-formed document has its
value as an image (`Json.image_ofJson`), and documents with one value differ in nothing but numbers that stand for one
double (`Json.ofJson_inj`). The order of members shows in the value, but strict equality does not see it
(`Json.Reordered.same`). What follows for values and for properties is collected in `Json.Faithful`.
-/

namespace RecordCheck

variable {α β γ : Type}

theorem map_eq_map_of_getElem? {f : α → γ} {g : β → γ} {xs : List α} {ys : List β} (size : xs.length = ys.length)
    (each : ∀ (i : Nat) x y, xs[i]? = some x → ys[i]? = some y → f x = g y) : xs.map f = ys.map g := by
  refine List.ext_getElem (by simpa using size) ?_
  intro i inX inY
  rw [List.getElem_map, List.getElem_map]
  exact each i _ _ (List.getElem?_eq_getElem _) (List.getElem?_eq_getElem _)

namespace Value

/-- The value is of a kind that documents can hold: a number, but not NaN, an object of no class, and no function. -/
def IsData : Value → Prop
  | number x => x.isNaN = false
  | object cls _ => cls = .object
  | function _ => False
  | _ => True

theorem IsData.notNaN {value : Value} (data : value.IsData) : value.isNaN = false := by
  cases value with
  | number x => exact data
  | _ => rfl

end Value

namespace Json

/-- A document and a value are the same tree; the value holds the double that each number stands for. -/
inductive Image : Json → Value → Prop where
  | null : Image .null .null
  | bool (b : Bool) : Image (.bool b) (.bool b)
  | number {n : Number} {x : Double} (stands : n.StandsFor x) : Image (.number n) (.number x)
  | string (s : String) : Image (.string s) (.string s)
  | array {xs : List Json} {ys : List Value} (size : xs.length = ys.length)
      (items : ∀ (i : Nat) x y, xs[i]? = some x → ys[i]? = some y → Image x y) : Image (.array xs) (.array ys)
  | object {xs : List (String × Json)} {ys : List (String × Value)} (names : keysOf xs = keysOf ys)
      (members : ∀ (i : Nat) x y, xs[i]? = some x → ys[i]? = some y → Image x.2 y.2) :
      Image (.object xs) (.object .object ys)

/-- Two documents are the same tree, with numbers that stand for the same double in the same places. -/
inductive Alike : Json → Json → Prop where
  | null : Alike null null
  | bool (b : Bool) : Alike (bool b) (bool b)
  | number {m n : Number} {x : Double} (stands : m.StandsFor x) (stands' : n.StandsFor x) : Alike (number m) (number n)
  | string (s : String) : Alike (string s) (string s)
  | array {xs ys : List Json} (size : xs.length = ys.length)
      (items : ∀ (i : Nat) x y, xs[i]? = some x → ys[i]? = some y → Alike x y) : Alike (array xs) (array ys)
  | object {xs ys : List (String × Json)} (names : keysOf xs = keysOf ys)
      (members : ∀ (i : Nat) x y, xs[i]? = some x → ys[i]? = some y → Alike x.2 y.2) : Alike (object xs) (object ys)

/-- Two documents differ in the order of the members of objects only, at any depth. -/
inductive Reordered : Json → Json → Prop where
  | null : Reordered null null
  | bool (b : Bool) : Reordered (bool b) (bool b)
  | number (n : Number) : Reordered (number n) (number n)
  | string (s : String) : Reordered (string s) (string s)
  | array {xs ys : List Json} (size : xs.length = ys.length)
      (items : ∀ (i : Nat) x y, xs[i]? = some x → ys[i]? = some y → Reordered x y) : Reordered (array xs) (array ys)
  | object {xs ys : List (String × Json)} (names : (keysOf xs).Perm (keysOf ys))
      (members : ∀ name x y, (name, x) ∈ xs → (name, y) ∈ ys → Reordered x y) : Reordered (object xs) (object ys)

section Tree

variable {document other : Json}

/-- A well-formed document and its value are the same tree. -/
theorem image_ofJson (wellFormed : document.WellFormed) : document.Image (Value.ofJson document) := by
  induction document using tree_induction with
  | step document ih =>
    cases document with
    | null => exact .null
    | bool b => exact .bool b
    | number n => exact .number (Number.standsFor_toDouble (wellFormed_number_iff.mp wellFormed))
    | string s => exact .string s
    | array xs =>
        rw [Value.ofJson_array]
        refine .array (List.length_map _).symm ?_
        intro i x y atX atY
        rw [List.getElem?_map, atX] at atY
        cases atY
        have each := wellFormed_array_iff.mp wellFormed
        exact ih x (mem_parts_of_getElem? atX) (each x (List.mem_of_getElem? atX))
    | object xs =>
        obtain ⟨distinct, each⟩ := wellFormed_object_iff.mp wellFormed
        rw [Value.ofJson_object_of_nodup distinct]
        refine .object (keysOf_map Value.ofJson xs).symm ?_
        intro i x y atX atY
        rw [List.getElem?_map, atX] at atY
        cases atY
        have member := List.mem_of_getElem? atX
        exact ih x.2 (mem_parts_of_mem_members member) (each x member)

/-- Documents with one image are the same tree. -/
theorem alike_of_image {value : Value} (image : document.Image value) (image' : other.Image value) :
    document.Alike other := by
  induction image generalizing other with
  | null =>
      cases image' with
      | null => exact .null
  | bool b =>
      cases image' with
      | bool => exact .bool b
  | number stands =>
      cases image' with
      | number stands' => exact .number stands stands'
  | string s =>
      cases image' with
      | string => exact .string s
  | array size items ih =>
      cases image' with
      | array size' items' =>
          refine .array (size.trans size'.symm) ?_
          intro i x z atX atZ
          obtain ⟨y, atY⟩ := exists_getElem?_of_length_eq size atX
          exact ih i x y atX atY (items' i z y atZ atY)
  | object names members ih =>
      cases image' with
      | object names' members' =>
          refine .object (names.trans names'.symm) ?_
          intro i x z atX atZ
          obtain ⟨y, atY⟩ := exists_getElem?_of_length_eq (length_eq_of_keysOf_eq names) atX
          exact ih i x y atX atY (members' i z y atZ atY)

/-- Documents that are the same tree, with numbers that stand for the same doubles, have one value. -/
theorem Alike.ofJson_eq (alike : document.Alike other) (wellFormed : document.WellFormed)
    (wellFormed' : other.WellFormed) : Value.ofJson document = Value.ofJson other := by
  induction alike with
  | null | bool | string => rfl
  | number stands stands' =>
      have same := stands.eq_toDouble (wellFormed_number_iff.mp wellFormed)
      have same' := stands'.eq_toDouble (wellFormed_number_iff.mp wellFormed')
      rw [Value.ofJson, Value.ofJson, ← same, ← same']
  | array size items ih =>
      have each := wellFormed_array_iff.mp wellFormed
      have each' := wellFormed_array_iff.mp wellFormed'
      rw [Value.ofJson_array, Value.ofJson_array]
      refine congrArg Value.array (map_eq_map_of_getElem? size ?_)
      intro i x y atX atY
      exact ih i x y atX atY (each x (List.mem_of_getElem? atX)) (each' y (List.mem_of_getElem? atY))
  | object names members ih =>
      have each := (wellFormed_object_iff.mp wellFormed).2
      have each' := (wellFormed_object_iff.mp wellFormed').2
      rw [Value.ofJson_object, Value.ofJson_object]
      refine congrArg Value.plain (map_eq_map_of_getElem? (length_eq_of_keysOf_eq names) ?_)
      intro i x y atX atY
      rw [fst_eq_of_keysOf_eq names atX atY,
        ih i x y atX atY (each x (List.mem_of_getElem? atX)) (each' y (List.mem_of_getElem? atY))]

/-- Two documents have one value if and only if they differ in nothing but numbers that stand for the same double. -/
theorem ofJson_inj (wellFormed : document.WellFormed) (wellFormed' : other.WellFormed) :
    Value.ofJson document = Value.ofJson other ↔ document.Alike other := by
  constructor
  · intro same
    exact alike_of_image (image_ofJson wellFormed) (same ▸ image_ofJson wellFormed')
  · intro alike
    exact alike.ofJson_eq wellFormed wellFormed'

/-- Documents that differ in the order of members have values that are the same for strict equality. -/
theorem Reordered.same (reordered : document.Reordered other) (wellFormed : document.WellFormed)
    (wellFormed' : other.WellFormed) : (Value.ofJson document).Same (Value.ofJson other) := by
  induction reordered with
  | null => exact .null
  | bool b => exact .bool b
  | number n =>
      have finite := Number.isFinite_toDouble (wellFormed_number_iff.mp wellFormed)
      have notNaN := Double.isNaN_eq_false_of_isFinite finite
      refine .number ?_
      rw [Double.numEq_self, notNaN, Bool.not_false]
  | string s => exact .string s
  | array size items ih =>
      have each := wellFormed_array_iff.mp wellFormed
      have each' := wellFormed_array_iff.mp wellFormed'
      rw [Value.ofJson_array, Value.ofJson_array]
      refine .array (by simpa using size) ?_
      intro i v w atV atW
      rw [List.getElem?_map, Option.map_eq_some_iff] at atV atW
      obtain ⟨x, atX, rfl⟩ := atV
      obtain ⟨y, atY, rfl⟩ := atW
      exact ih i x y atX atY (each x (List.mem_of_getElem? atX)) (each' y (List.mem_of_getElem? atY))
  | @object xs ys names members ih =>
      obtain ⟨distinct, each⟩ := wellFormed_object_iff.mp wellFormed
      obtain ⟨distinct', each'⟩ := wellFormed_object_iff.mp wellFormed'
      have size : xs.length = ys.length := by simpa [keysOf] using names.length_eq
      rw [Value.ofJson_object_of_nodup distinct, Value.ofJson_object_of_nodup distinct']
      refine .object .object (by simpa using size) ?_ ?_
      · rw [keysOf_map, keysOf_map]
        exact names.subset
      · intro name v w inV found
        obtain ⟨⟨_, x⟩, inX, same⟩ := List.mem_map.mp inV
        cases same
        obtain ⟨⟨_, y⟩, inY, same⟩ := List.mem_map.mp (mem_of_lookup found)
        cases same
        exact ih _ x y inX inY (each _ inX) (each' _ inY)

/-- The value of a well-formed document is well-formed. -/
theorem wellFormed_ofJson (wellFormed : document.WellFormed) : (Value.ofJson document).WellFormed := by
  refine Value.every_ofJson ?_ wellFormed
  intro document _
  cases document with
  | object members =>
      rw [Value.ofJson_object]
      exact nodup_keysOf_collect _
  | _ =>
      rw [Value.ofJson]
      exact List.nodup_nil

/-- The value of a document holds nothing but data. -/
theorem every_isData_ofJson (wellFormed : document.WellFormed) : (Value.ofJson document).Every Value.IsData := by
  refine Value.every_ofJson ?_ wellFormed
  rintro document ⟨-, held⟩
  cases document with
  | number n =>
      rw [Value.ofJson]
      exact Double.isNaN_eq_false_of_isFinite (Number.isFinite_toDouble (held n rfl))
  | object members =>
      rw [Value.ofJson_object]
      rfl
  | _ =>
      rw [Value.ofJson]
      trivial

end Tree

section Properties

variable {document : Json}

/-- What a document that is no object reports where properties are expected. -/
theorem ofJson_eq_error (noObject : document.isObject = false) :
    Props.ofJson document = .error (.notAnObject (Value.ofJson document).typeName) := by
  cases document with
  | object => cases noObject
  | _ =>
      rw [Props.ofJson]
      intro members same
      cases same

/-- Only an object holds properties. -/
theorem isObject_of_ofJson_eq_ok {props : Props} (read : Props.ofJson document = .ok props) :
    document.isObject = true := by
  cases shape : document.isObject with
  | true => rfl
  | false =>
      rw [ofJson_eq_error shape] at read
      cases read

theorem exists_ofJson_eq_ok (isObject : document.isObject = true) :
    ∃ props, Props.ofJson document = .ok props ∧ Value.ofJson document = props.toValue := by
  cases document with
  | object members =>
      refine ⟨_, rfl, ?_⟩
      rw [Value.ofJson]
      rfl
  | _ => cases isObject

end Properties

/-- What a document and its value have to do with each other. -/
structure Faithful (document : Json) : Prop where
  /-- They are the same tree. -/
  image : document.Image (Value.ofJson document)
  /-- The tree of the value holds no function, no object with a class of its own, and no NaN. -/
  data : (Value.ofJson document).Every Value.IsData
  reflexive : (Value.ofJson document).strictEq (Value.ofJson document) = true
  /-- A document with the same value differs in nothing but numbers that stand for the same double. -/
  injective (other : Json) (wellFormed : other.WellFormed) :
    Value.ofJson document = Value.ofJson other ↔ document.Alike other
  /-- The order of members does not count for strict equality. -/
  reordered (other : Json) (wellFormed : other.WellFormed) (reordered : document.Reordered other) :
    (Value.ofJson document).strictEq (Value.ofJson other) = true
  /-- Objects and nothing else hold properties. -/
  properties : (∃ props, Props.ofJson document = .ok props) ↔ document.isObject = true
  /-- The properties are the fields of the value, in order. -/
  fields (props : Props) (read : Props.ofJson document = .ok props) : Value.ofJson document = props.toValue
  /-- A document that holds no properties is reported with the type of its value. -/
  refused (noObject : document.isObject = false) :
    Props.ofJson document = .error (.notAnObject (Value.ofJson document).typeName)

/-- Well-formed documents are converted faithfully. -/
theorem faithful_of_wellFormed {document : Json} (wellFormed : document.WellFormed) : document.Faithful where
  image := image_ofJson wellFormed
  data := every_isData_ofJson wellFormed
  reflexive := by
    have free := (every_isData_ofJson wellFormed).mono fun _ data => data.notNaN
    exact (Value.strictEq_self_iff (wellFormed_ofJson wellFormed)).mpr free
  injective _ wellFormed' := ofJson_inj wellFormed wellFormed'
  reordered _ wellFormed' reordered := Value.strictEq_iff.mpr (reordered.same wellFormed wellFormed')
  properties := by
    constructor
    · rintro ⟨props, read⟩
      exact isObject_of_ofJson_eq_ok read
    · intro isObject
      obtain ⟨props, read, -⟩ := exists_ofJson_eq_ok isObject
      exact ⟨props, read⟩
  fields props read := by
    obtain ⟨found, read', same⟩ := exists_ofJson_eq_ok (isObject_of_ofJson_eq_ok read)
    cases read.symm.trans read'
    exact same
  refused := ofJson_eq_error

/-- From here on not every integer has a double of its own. -/
def tick : Number := .integer 9007199254740992

/-- The next integer, in the middle between two doubles. -/
def nextTick : Number := .integer 9007199254740993

/-- One half. -/
def half : Double := .ofBits 0x3FE0000000000000

/-- A reading of a gauge. -/
def reading (time : Number) : Json := .object [("time", .number time), ("level", .number (.double half))]

/-- The reading with its members in the other order. -/
def shuffledReading (time : Number) : Json := .object [("level", .number (.double half)), ("time", .number time)]

theorem wellFormed_reading {time : Number} (held : time.Held) :
    (reading time).WellFormed ∧ (shuffledReading time).WellFormed := by
  have level : (Number.double half).Held := by
    show half.isFinite = true
    decide
  simp [reading, shuffledReading, wellFormed_object_iff, wellFormed_number_iff, keysOf, held, level]

theorem reordered_reading (time : Number) : (reading time).Reordered (shuffledReading time) := by
  refine .object (List.Perm.swap _ _ _) ?_
  intro name x y inX inY
  simp only [List.mem_cons, Prod.mk.injEq, List.not_mem_nil, or_false] at inX inY
  obtain ⟨rfl, rfl⟩ | ⟨rfl, rfl⟩ := inX
  · obtain ⟨different, -⟩ | ⟨-, rfl⟩ := inY
    · exact absurd different (by decide)
    · exact .number time
  · obtain ⟨-, rfl⟩ | ⟨different, -⟩ := inY
    · exact .number (.double half)
    · exact absurd different (by decide)

/-- Readings at times that stand for one double are alike. -/
theorem alike_reading {time time' : Number} {x : Double} (stands : time.StandsFor x) (stands' : time'.StandsFor x) :
    (reading time).Alike (reading time') := by
  refine .object rfl ?_
  intro i x y atX atY
  match i with
  | 0 =>
      cases atX
      cases atY
      exact .number stands stands'
  | 1 =>
      cases atX
      cases atY
      exact .number (.double half) (.double half)

/-- The image of a reading holds the doubles that its two numbers stand for. -/
theorem eq_of_image_reading {time : Number} {value : Value} (image : (reading time).Image value) :
    ∃ x, time.StandsFor x ∧ value = .object .object [("time", .number x), ("level", .number half)] := by
  cases image with
  | @object _ ys names members =>
      match ys, names with
      | [(_, a), (_, b)], rfl =>
          have first : (number time).Image a := members 0 _ _ rfl rfl
          have second : (number (.double half)).Image b := members 1 _ _ rfl rfl
          cases first with
          | number stands =>
              cases second with
              | number stands' =>
                  cases stands' with
                  | double => exact ⟨_, stands, rfl⟩

theorem faithful_of_wellFormed_reading :
    (array [reading tick]).WellFormed ∧ (reading nextTick).WellFormed ∧
      Value.ofJson (reading nextTick) = .object .object
        [("time", .number (.ofBits 0x4340000000000000)), ("level", .number (.ofBits 0x3FE0000000000000))] ∧
      (Value.ofJson (array [reading tick])).strictEq (Value.ofJson (array [shuffledReading tick])) = true ∧
      Value.ofJson (reading tick) ≠ Value.ofJson (shuffledReading tick) ∧
      Value.ofJson (reading tick) = Value.ofJson (reading nextTick) ∧
      (∃ props, Props.ofJson (reading tick) = .ok props) ∧
      Props.ofJson (array [reading tick]) = .error (.notAnObject "object") := by
  have held : tick.Held := ⟨by decide, by decide⟩
  have heldLater : nextTick.Held := ⟨by decide, by decide⟩
  have rounded : nextTick.toDouble = .ofBits 0x4340000000000000 := by decide +kernel
  have same : tick.toDouble = nextTick.toDouble := by decide +kernel
  obtain ⟨wellFormed, wellFormedShuffled⟩ := wellFormed_reading held
  have wellFormedLater := (wellFormed_reading heldLater).1
  have log : (array [reading tick]).WellFormed := by simpa [wellFormed_array_iff] using wellFormed
  have logShuffled : (array [shuffledReading tick]).WellFormed := by
    simpa [wellFormed_array_iff] using wellFormedShuffled
  have faithful : (reading tick).Faithful := faithful_of_wellFormed wellFormed
  have faithfulLater : (reading nextTick).Faithful := faithful_of_wellFormed wellFormedLater
  have faithfulLog : (array [reading tick]).Faithful := faithful_of_wellFormed log
  refine ⟨log, wellFormedLater, ?_, faithfulLog.reordered _ logShuffled (.array rfl ?_), ?_, ?_,
    faithful.properties.mpr rfl, faithfulLog.refused rfl⟩
  · obtain ⟨x, stands, value⟩ := eq_of_image_reading faithfulLater.image
    rw [value, stands.eq_toDouble heldLater, rounded]
    rfl
  · intro i x y atX atY
    match i with
    | 0 =>
        cases atX
        cases atY
        exact reordered_reading tick
  · intro same
    cases (faithful.injective _ wellFormedShuffled).mp same with
    | object names => exact absurd names (by decide)
  · apply (faithful.injective _ wellFormedLater).mpr
    have stands := Number.standsFor_toDouble held
    rw [same] at stands
    exact alike_reading stands (Number.standsFor_toDouble heldLater)

end Json

end RecordCheck
