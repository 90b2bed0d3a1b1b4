import Mathlib.Data.List.Forall2
import Mathlib.Data.List.Perm.Subperm
import RecordCheck.Proofs.Value
import RecordCheck.Value.Text

/-!
# Strict equality

`Value.Same` says when two values are the same for strict equality, and the test decides this relation
(`Value.strictEq_iff`). The test of two objects goes through the fields of the first one only. If names are distinct,
as they are in well-formed values, the objects have the same names nevertheless, so that the relation is symmetric
(`Value.Same.symm`); it is transitive anyway (`Value.Same.trans`). Messages and tests that look at a value as a whole
cannot tell it from one that is the same (`Value.Same.lookalike`, `Value.Same.text_eq`).
-/

namespace RecordCheck

variable {α β : Type}

theorem exists_getElem?_of_length_eq {xs : List α} {ys : List β} (size : xs.length = ys.length) {i : Nat} {x : α}
    (found : xs[i]? = some x) : ∃ y, ys[i]? = some y := by
  have inside : i < ys.length := by
    rw [← size]
    exact (List.getElem?_eq_some_iff.mp found).1
  exact ⟨ys[i], List.getElem?_eq_getElem inside⟩

/-- Lists of equally many fields with distinct names have the same names once one has those of the other. -/
theorem keysOf_subset_of_length_eq {xs ys : List (String × α)} (distinct : (keysOf xs).Nodup)
    (size : xs.length = ys.length) (names : keysOf xs ⊆ keysOf ys) : keysOf ys ⊆ keysOf xs := by
  have few : (keysOf ys).length ≤ (keysOf xs).length := by
    simp only [keysOf, List.length_map]
    omega
  have inside : (keysOf xs).Subperm (keysOf ys) := List.subperm_of_subset distinct names
  exact (inside.perm_of_length_le few).symm.subset

namespace Value

/-- Two values are strictly equal: they have the same constructor and equal contents. -/
inductive Same : Value → Value → Prop where
  | null : Same null null
  | bool (b : Bool) : Same (bool b) (bool b)
  | number {x y : Double} (equal : x.numEq y = true) : Same (number x) (number y)
  | string (s : String) : Same (string s) (string s)
  | array {xs ys : List Value} (size : xs.length = ys.length)
      (items : ∀ (i : Nat) x y, xs[i]? = some x → ys[i]? = some y → Same x y) : Same (array xs) (array ys)
  | object (cls : Class) {xs ys : List (String × Value)} (size : xs.length = ys.length)
      (names : keysOf xs ⊆ keysOf ys)
      (fields : ∀ name x y, (name, x) ∈ xs → ys.lookup name = some y → Same x y) :
      Same (object cls xs) (object cls ys)
  | function (f : Function) : Same (function f) (function f)

theorem itemsEq_iff {xs ys : List Value} :
    itemsEq xs ys = true ↔ xs.length = ys.length ∧
      ∀ (i : Nat) x y, xs[i]? = some x → ys[i]? = some y → x.strictEq y = true := by
  induction xs generalizing ys with
  | nil =>
      cases ys with
      | nil => simp [itemsEq]
      | cons => simp [itemsEq]
  | cons head rest ih =>
      cases ys with
      | nil => simp [itemsEq]
      | cons other others =>
          rw [itemsEq, Bool.and_eq_true, ih]
          constructor
          · rintro ⟨here, size, later⟩
            refine ⟨congrArg Nat.succ size, ?_⟩
            intro i x y atX atY
            cases i with
            | zero =>
                cases atX
                cases atY
                exact here
            | succ i => exact later i x y atX atY
          · rintro ⟨size, each⟩
            refine ⟨each 0 head other rfl rfl, Nat.succ.inj size, ?_⟩
            intro i x y atX atY
            exact each (i + 1) x y atX atY

theorem fieldsEq_iff {xs ys : List (String × Value)} :
    fieldsEq xs ys = true ↔
      ∀ name x, (name, x) ∈ xs → ∃ y, ys.lookup name = some y ∧ x.strictEq y = true := by
  induction xs with
  | nil => simp [fieldsEq]
  | cons head rest ih =>
      obtain ⟨key, value⟩ := head
      have unfolded : fieldsEq ((key, value) :: rest) ys = true ↔
          (∃ y, ys.lookup key = some y ∧ value.strictEq y = true) ∧ fieldsEq rest ys = true := by
        rw [fieldsEq, Bool.and_eq_true]
        cases ys.lookup key with
        | none => simp
        | some y => simp
      rw [unfolded, ih]
      constructor
      · rintro ⟨here, later⟩ name x member
        rcases List.mem_cons.mp member with same | inRest
        · cases same
          exact here
        · exact later name x inRest
      · intro each
        exact ⟨each key value List.mem_cons_self, fun name x inRest => each name x (List.mem_cons_of_mem _ inRest)⟩

theorem same_of_strictEq {a b : Value} (equal : a.strictEq b = true) : Same a b := by
  induction a using tree_induction generalizing b with
  | step a ih =>
    cases a with
    | null =>
        cases b with
        | null => exact .null
        | _ => cases equal
    | bool p =>
        cases b with
        | bool q =>
            obtain rfl : p = q := beq_iff_eq.mp equal
            exact .bool p
        | _ => cases equal
    | number x =>
        cases b with
        | number y => exact .number equal
        | _ => cases equal
    | string s =>
        cases b with
        | string t =>
            obtain rfl : s = t := beq_iff_eq.mp equal
            exact .string s
        | _ => cases equal
    | array xs =>
        cases b with
        | array ys =>
            obtain ⟨size, each⟩ := itemsEq_iff.mp equal
            refine .array size ?_
            intro i x y atX atY
            exact ih x (mem_parts_of_getElem? atX) (each i x y atX atY)
        | _ => cases equal
    | object c xs =>
        cases b with
        | object d ys =>
            simp only [strictEq, Bool.and_eq_true, decide_eq_true_eq, beq_iff_eq] at equal
            obtain ⟨⟨rfl, size⟩, fields⟩ := equal
            have each := fieldsEq_iff.mp fields
            refine .object c size ?_ ?_
            · intro name member
              obtain ⟨⟨key, x⟩, inside, rfl⟩ := List.mem_map.mp member
              obtain ⟨y, found, -⟩ := each key x inside
              exact mem_keysOf_iff.mpr ⟨y, found⟩
            · intro name x y member found
              obtain ⟨z, foundZ, same⟩ := each name x member
              obtain rfl : z = y := Option.some.inj (foundZ.symm.trans found)
              exact ih x (mem_parts_of_mem_entries member) same
        | _ => cases equal
    | function f =>
        cases b with
        | function g =>
            obtain rfl : f = g := of_decide_eq_true equal
            exact .function f
        | _ => cases equal

/-- The test decides strict equality. -/
theorem strictEq_iff {a b : Value} : a.strictEq b = true ↔ Same a b := by
  refine ⟨same_of_strictEq, ?_⟩
  intro same
  induction same with
  | null => rfl
  | bool => exact beq_self_eq_true _
  | number equal => exact equal
  | string => exact beq_self_eq_true _
  | array size items ih => exact itemsEq_iff.mpr ⟨size, ih⟩
  | object cls size names fields ih =>
      simp only [strictEq, Bool.and_eq_true, decide_eq_true_eq, beq_iff_eq, true_and]
      refine ⟨size, fieldsEq_iff.mpr ?_⟩
      intro name x member
      have named := names (List.mem_map_of_mem member)
      obtain ⟨y, found⟩ := mem_keysOf_iff.mp named
      exact ⟨y, found, ih name x y member found⟩
  | function => exact decide_eq_true rfl

/-- What tests and messages see of a value from outside, its text aside. -/
structure Lookalike (a b : Value) : Prop where
  typeName : a.typeName = b.typeName
  containerName : a.containerName = b.containerName
  constructorName? : a.constructorName? = b.constructorName?
  class? : a.class? = b.class?
  isArray : a.isArray = b.isArray
  isObject : a.isObject = b.isObject
  isNull : a.isNull = b.isNull

namespace Same

theorem lookalike {a b : Value} (same : Same a b) : Lookalike a b := by
  cases same with
  | _ => exact ⟨rfl, rfl, rfl, rfl, rfl, rfl, rfl⟩

theorem trans {a b c : Value} (first : Same a b) (second : Same b c) : Same a c := by
  induction first generalizing c with
  | null | bool | string | function => exact second
  | number equal =>
      cases second with
      | number equal' =>
          obtain ⟨number, -, key⟩ := Double.numEq_iff.mp equal
          obtain ⟨-, number', key'⟩ := Double.numEq_iff.mp equal'
          exact .number (Double.numEq_iff.mpr ⟨number, number', key.trans key'⟩)
  | @array xs ys size items ih =>
      cases second with
      | @array _ zs size' items' =>
          refine .array (size.trans size') ?_
          intro i x z atX atZ
          obtain ⟨y, atY⟩ := exists_getElem?_of_length_eq size atX
          exact ih i x y atX atY (items' i y z atY atZ)
  | @object cls xs ys size names fields ih =>
      cases second with
      | object _ size' names' fields' =>
          refine .object cls (size.trans size') (fun name member => names' (names member)) ?_
          intro name x z member foundZ
          have named := names (List.mem_map_of_mem member)
          obtain ⟨y, foundY⟩ := mem_keysOf_iff.mp named
          exact ih name x y member foundY (fields' name y z (mem_of_lookup foundY) foundZ)

theorem symm {a b : Value} (same : Same a b) (wellFormed : a.WellFormed) (wellFormed' : b.WellFormed) :
    Same b a := by
  induction same with
  | null => exact .null
  | bool b => exact .bool b
  | number equal => exact .number ((Double.numEq_comm _ _).trans equal)
  | string s => exact .string s
  | array size items ih =>
      refine .array size.symm ?_
      intro i y x atY atX
      have part := (every_iff.mp wellFormed).2 x (mem_parts_of_getElem? atX)
      have part' := (every_iff.mp wellFormed').2 y (mem_parts_of_getElem? atY)
      exact ih i x y atX atY part part'
  | object cls size names fields ih =>
      obtain ⟨distinct, parts⟩ := every_iff.mp wellFormed
      obtain ⟨distinct', parts'⟩ := every_iff.mp wellFormed'
      refine .object cls size.symm (keysOf_subset_of_length_eq distinct size names) ?_
      intro name y x memberY foundX
      have memberX := mem_of_lookup foundX
      have foundY := lookup_of_mem distinct' memberY
      exact ih name x y memberX foundY (parts x (mem_parts_of_mem_entries memberX))
        (parts' y (mem_parts_of_mem_entries memberY))
  | function f => exact .function f

/-- Values that are the same have the same items in the same places. -/
theorem forall₂_items {a b : Value} (same : Same a b) : List.Forall₂ Same a.items b.items := by
  cases same with
  | array size items =>
      apply List.forall₂_iff_get.mpr
      refine ⟨size, ?_⟩
      intro i inX inY
      exact items i _ _ (List.getElem?_eq_getElem inX) (List.getElem?_eq_getElem inY)
  | _ => exact .nil

/-- Values that are the same have the same fields, whatever their order is. -/
theorem rel_lookup {a b : Value} (same : Same a b) (wellFormed : a.WellFormed) (name : String) :
    Option.Rel Same (a.entries.lookup name) (b.entries.lookup name) := by
  cases same with
  | @object cls xs ys size names fields =>
      simp only [entries]
      cases foundX : xs.lookup name with
      | some x =>
          have member := mem_of_lookup foundX
          obtain ⟨y, foundY⟩ := mem_keysOf_iff.mp (names (List.mem_map_of_mem member))
          rw [foundY]
          exact .some (fields name x y member foundY)
      | none =>
          cases foundY : ys.lookup name with
          | none => exact .none
          | some y =>
              -- a name of the second object only would make it the larger one
              have distinct : (keysOf xs).Nodup := (every_iff.mp wellFormed).1
              have named := keysOf_subset_of_length_eq distinct size names (mem_keysOf_iff.mpr ⟨y, foundY⟩)
              obtain ⟨x, found⟩ := mem_keysOf_iff.mp named
              rw [foundX] at found
              cases found
  | _ => exact .none

theorem itemTexts_eq_map (items : List Value) :
    itemTexts items = items.map fun item => if item.isNull then "" else item.text := by
  induction items with
  | nil => rfl
  | cons item rest ih => rw [itemTexts, ih, List.map_cons]

/-- Values that are the same have the same text. -/
theorem text_eq {a b : Value} (same : Same a b) : a.text = b.text := by
  induction same with
  | number equal =>
      rcases Double.eq_or_isZero_of_numEq equal with rfl | ⟨zero, zero'⟩
      · rfl
      · simp only [text]
        rw [Double.text_of_isZero rfl zero, Double.text_of_isZero rfl zero']
  | @array xs ys size items ih =>
      have texts : itemTexts xs = itemTexts ys := by
        rw [itemTexts_eq_map, itemTexts_eq_map]
        apply List.ext_getElem (by simpa using size)
        intro i inTexts inTexts'
        have inX : i < xs.length := by simpa using inTexts
        have inY : i < ys.length := by simpa using inTexts'
        have atX : xs[i]? = some xs[i] := List.getElem?_eq_getElem inX
        have atY : ys[i]? = some ys[i] := List.getElem?_eq_getElem inY
        simp only [List.getElem_map, (items i _ _ atX atY).lookalike.isNull, ih i _ _ atX atY]
      simp only [text, texts]
  | _ => rfl

end Same

end Value

end RecordCheck
