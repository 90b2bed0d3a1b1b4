import RecordCheck.Checker.Check
import RecordCheck.Proofs.Value.StrictEq

/-!
# Values without NaN

Strict equality is a partial equivalence on values whose objects have distinct names: it is symmetric and transitive,
and a value is equal to itself if and only if nothing in its tree is NaN (`Value.strictEq_self_iff`). A choice of values
therefore accepts those that it names, unless NaN is in them (`Value.strictEq_partial_equivalence`).
-/

namespace RecordCheck.Value

variable {ν : Type}

/-- Whether the value is NaN. -/
def isNaN : Value → Bool
  | number x => x.isNaN
  | _ => false

/-- No value in the tree is NaN; what a function captures is not in it. -/
def NaNFree : Value → Prop := Every fun value => value.isNaN = false

/-- A value is equal to itself if it is not NaN and its parts are equal to themselves. -/
theorem strictEq_self_iff_parts {value : Value} (distinct : (keysOf value.entries).Nodup) :
    value.strictEq value = true ↔ value.isNaN = false ∧ ∀ part ∈ value.parts, part.strictEq part = true := by
  cases value with
  | null | bool | string | function => simp [strictEq, isNaN, parts, items, entries]
  | number x => simp [strictEq, Double.numEq_self, isNaN, parts, items, entries]
  | array xs =>
      simp only [strictEq, itemsEq_iff, isNaN, true_and]
      constructor
      · intro each part member
        have inside : part ∈ xs := by simpa [parts, items, entries] using member
        obtain ⟨i, found⟩ := List.mem_iff_getElem?.mp inside
        exact each i part part found found
      · intro each i x y atX atY
        obtain rfl : x = y := Option.some.inj (atX.symm.trans atY)
        exact each x (mem_parts_of_getElem? atX)
  | object cls xs =>
      simp only [strictEq, fieldsEq_iff, isNaN, decide_true, beq_self_eq_true, Bool.and_true, Bool.true_and, true_and]
      constructor
      · intro each part member
        obtain ⟨⟨name, item⟩, inside, rfl⟩ := List.mem_map.mp member
        -- the field is found under its own name, since no other field has it
        obtain ⟨found, looked, equal⟩ := each name item inside
        obtain rfl : item = found := Option.some.inj ((lookup_of_mem distinct inside).symm.trans looked)
        exact equal
      · intro each name item inside
        exact ⟨item, lookup_of_mem distinct inside, each item (mem_parts_of_mem_entries inside)⟩

/-- A value is equal to itself if and only if nothing in it is NaN. -/
theorem strictEq_self_iff {value : Value} (wellFormed : value.WellFormed) :
    value.strictEq value = true ↔ value.NaNFree := by
  induction value using tree_induction with
  | step value ih =>
    obtain ⟨distinct, wellFormedParts⟩ := every_iff.mp wellFormed
    rw [strictEq_self_iff_parts distinct, NaNFree, every_iff]
    refine and_congr_right fun _ => ?_
    constructor
    · intro each part member
      exact (ih part member (wellFormedParts part member)).mp (each part member)
    · intro each part member
      exact (ih part member (wellFormedParts part member)).mpr (each part member)

/-- A choice accepts what is strictly equal to one of its values, and reports everything else. -/
theorem check_oneOf (allowed : List Value) (value : Value) (field : String) :
    ((Checker.oneOf allowed : Checker ν).check value field).result =
      if ∃ candidate ∈ allowed, candidate.strictEq value = true then .ok ()
      else .error (.notAllowed field (allowed.map text) value.text) := by
  simp only [Checker.oneOf, Checker.new, Checker.check, Rule.check, ← List.any_eq_true]
  split
  · rfl
  · rfl

/--
Strict equality is symmetric and transitive, and reflexive on the values in which nothing is NaN. Every choice that
names such a value accepts it; a value with NaN in it is refused even where no other one is named.
-/
theorem strictEq_partial_equivalence {a b c : Value} (wellFormed : a.WellFormed) (wellFormed' : b.WellFormed) :
    (a.strictEq b = true → b.strictEq a = true) ∧
      (a.strictEq b = true → b.strictEq c = true → a.strictEq c = true) ∧
      (a.strictEq a = true ↔ a.NaNFree) ∧
      (a.NaNFree → ∀ (allowed : List Value) (field : String), a ∈ allowed →
        ((Checker.oneOf allowed : Checker ν).check a field).result = .ok ()) ∧
      (¬ a.NaNFree → ∀ field : String,
        ((Checker.oneOf [a] : Checker ν).check a field).result = .error (.notAllowed field [a.text] a.text)) := by
  have reflexive := strictEq_self_iff wellFormed
  refine ⟨?_, ?_, reflexive, ?_, ?_⟩
  · intro equal
    exact strictEq_iff.mpr ((strictEq_iff.mp equal).symm wellFormed wellFormed')
  · intro first second
    exact strictEq_iff.mpr ((strictEq_iff.mp first).trans (strictEq_iff.mp second))
  · intro free allowed field member
    rw [check_oneOf]
    exact if_pos ⟨a, member, reflexive.mpr free⟩
  · intro notFree field
    rw [check_oneOf]
    apply if_neg
    rintro ⟨candidate, member, equal⟩
    obtain rfl := List.mem_singleton.mp member
    exact notFree (reflexive.mp equal)

/-- A weighing that came out as zero. -/
def weighing : Value := .plain [("weight", .number (Double.zero false)), ("scales", .array [.null, .string "left"])]

/-- The same with its fields in the other order and with the other zero. -/
def reweighing : Value := .plain [("scales", .array [.null, .string "left"]), ("weight", .number (Double.zero true))]

/-- A weighing without a number as its result, on a list. -/
def failedWeighing : Value := .array [.plain [("weight", .number .nan)]]

theorem strictEq_partial_equivalence_weighing :
    weighing.WellFormed ∧ reweighing.WellFormed ∧ failedWeighing.WellFormed ∧
      weighing.strictEq reweighing = true ∧ reweighing.strictEq weighing = true ∧ weighing.NaNFree ∧
      ((Checker.oneOf [.null, weighing] : Checker Unit).check weighing "w").result = .ok () ∧
      failedWeighing.strictEq failedWeighing = false ∧ ¬ failedWeighing.NaNFree ∧
      ((Checker.oneOf [failedWeighing] : Checker Unit).check failedWeighing "w").result =
        .error (.notAllowed "w" ["[object Object]"] "[object Object]") := by
  have number : ∀ x, (Value.number x).WellFormed := fun x => wellFormed_leaf rfl rfl
  have null : Value.null.WellFormed := wellFormed_leaf rfl rfl
  have text : ∀ s, (Value.string s).WellFormed := fun s => wellFormed_leaf rfl rfl
  have scales : (Value.array [.null, .string "left"]).WellFormed := wellFormed_array (by simp [null, text])
  have wellFormed : weighing.WellFormed := wellFormed_plain (by simp [number, scales])
  have wellFormed' : reweighing.WellFormed := wellFormed_plain (by simp [number, scales])
  have failedEntry : (Value.plain [("weight", .number .nan)]).WellFormed := wellFormed_plain (by simp [number])
  have failed : failedWeighing.WellFormed := wellFormed_array (by simpa using failedEntry)
  have equal : weighing.strictEq reweighing = true := by decide
  have different : failedWeighing.strictEq failedWeighing = false := by decide
  obtain ⟨symmetric, transitive, reflexive, accepted, -⟩ :=
    strictEq_partial_equivalence (ν := Unit) (c := weighing) wellFormed wellFormed'
  have free : weighing.NaNFree := reflexive.mp (transitive equal (symmetric equal))
  obtain ⟨-, -, irreflexive, -, refused⟩ :=
    strictEq_partial_equivalence (ν := Unit) (c := failedWeighing) failed failed
  have notFree : ¬ failedWeighing.NaNFree := by
    rw [← irreflexive, different]
    exact Bool.false_ne_true
  exact ⟨wellFormed, wellFormed', failed, equal, symmetric equal, free, accepted free [.null, weighing] "w" (by simp),
    different, notFree, refused notFree "w"⟩

end RecordCheck.Value
