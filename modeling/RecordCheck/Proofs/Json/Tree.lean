import RecordCheck.Json.Value
import RecordCheck.Proofs.Json.Number
import RecordCheck.Proofs.Record.Deduplicated
import RecordCheck.Proofs.Value

/-!
# Documents as trees

The items of an array and the members of an object are the `parts` of a document, and what is shown of a document from
its parts holds of every document (`Json.tree_induction`). The parts of the value of a document are the values of its
parts, so what all documents in a tree have in common carries over to their values (`Value.every_ofJson`).
-/

namespace RecordCheck

namespace Json

/-- The items of an array; other documents have none. -/
def items : Json → List Json
  | array items => items
  | _ => []

/-- The members of an object; other documents have none. -/
def members : Json → List (String × Json)
  | object members => members
  | _ => []

/-- Whether the document is an object. -/
def isObject : Json → Bool
  | object _ => true
  | _ => false

/-- The items and the values of the members. -/
def parts (document : Json) : List Json := document.items ++ document.members.map Prod.snd

theorem parts_array (xs : List Json) : (array xs).parts = xs := List.append_nil xs

theorem parts_object (xs : List (String × Json)) : (object xs).parts = xs.map Prod.snd := rfl

theorem sizeOf_lt_of_mem_parts {document part : Json} (member : part ∈ document.parts) :
    sizeOf part < sizeOf document := by
  cases document with
  | array xs =>
      have inside : part ∈ xs := by rwa [parts_array] at member
      have smaller : sizeOf part < sizeOf xs := List.sizeOf_lt_of_mem inside
      simp only [array.sizeOf_spec]
      omega
  | object xs =>
      rw [parts_object] at member
      obtain ⟨⟨name, item⟩, inside, rfl⟩ := List.mem_map.mp member
      have smaller := List.sizeOf_lt_of_mem inside
      simp only [object.sizeOf_spec, Prod.mk.sizeOf_spec] at smaller ⊢
      omega
  | _ => cases member

/-- What the parts of a document hand on to it holds of every document. -/
@[elab_as_elim]
theorem tree_induction {motive : Json → Prop}
    (step : ∀ document, (∀ part ∈ document.parts, motive part) → motive document) (document : Json) :
    motive document :=
  step document fun part _ => tree_induction step part
termination_by sizeOf document
decreasing_by exact sizeOf_lt_of_mem_parts ‹part ∈ document.parts›

/-- Every document in the tree satisfies `P`. -/
inductive Every (P : Json → Prop) : Json → Prop where
  | mk {document : Json} (here : P document) (below : ∀ part ∈ document.parts, Every P part) : Every P document

theorem every_iff {P : Json → Prop} {document : Json} :
    Every P document ↔ P document ∧ ∀ part ∈ document.parts, Every P part := by
  constructor
  · rintro ⟨here, below⟩
    exact ⟨here, below⟩
  · rintro ⟨here, below⟩
    exact .mk here below

theorem mem_parts_of_getElem? {xs : List Json} {i : Nat} {x : Json} (found : xs[i]? = some x) :
    x ∈ (array xs).parts := by
  rw [parts_array]
  exact List.mem_of_getElem? found

theorem mem_parts_of_mem_members {xs : List (String × Json)} {member : String × Json} (inside : member ∈ xs) :
    member.2 ∈ (object xs).parts := by
  rw [parts_object]
  exact List.mem_map_of_mem inside

/--
The document is as it is held once it has been read: the members of every object have distinct names, and every number
is an integer of 64 bits or a finite double.
-/
def WellFormed : Json → Prop :=
  Every fun document => (keysOf document.members).Nodup ∧ ∀ n, document = number n → n.Held

theorem wellFormed_iff {document : Json} :
    document.WellFormed ↔
      ((keysOf document.members).Nodup ∧ ∀ n, document = number n → n.Held) ∧
        ∀ part ∈ document.parts, part.WellFormed :=
  every_iff

theorem wellFormed_null : null.WellFormed := by
  rw [wellFormed_iff]
  simp [parts, items, members, keysOf]

theorem wellFormed_number_iff {n : Number} : (number n).WellFormed ↔ n.Held := by
  rw [wellFormed_iff]
  simp [parts, items, members, keysOf]

theorem wellFormed_array_iff {xs : List Json} : (array xs).WellFormed ↔ ∀ x ∈ xs, x.WellFormed := by
  rw [wellFormed_iff, parts_array]
  simp [members, keysOf]

theorem wellFormed_object_iff {xs : List (String × Json)} :
    (object xs).WellFormed ↔ (keysOf xs).Nodup ∧ ∀ x ∈ xs, x.2.WellFormed := by
  rw [wellFormed_iff, parts_object, List.forall_mem_map]
  simp [members]

end Json

namespace Value

theorem ofJson_array (items : List Json) : ofJson (.array items) = array (items.map ofJson) := by
  rw [ofJson, ofItems_eq_map]

theorem ofJson_object (members : List (String × Json)) :
    ofJson (.object members) = plain (members.map fun member => (member.1, ofJson member.2)) := by
  rw [ofJson, ofMembers_eq_map]

/-- The members of an object are its fields, if their names are distinct. -/
theorem ofJson_object_of_nodup {members : List (String × Json)} (distinct : (keysOf members).Nodup) :
    ofJson (.object members) = object .object (members.map fun member => (member.1, ofJson member.2)) := by
  rw [← keysOf_map ofJson] at distinct
  rw [ofJson_object, plain, instanceOf, collect_of_nodup distinct]

/-- The parts of the value of a document are values of its parts. -/
theorem exists_of_mem_parts_ofJson {document : Json} {part : Value} (member : part ∈ (ofJson document).parts) :
    ∃ below ∈ document.parts, part = ofJson below := by
  cases document with
  | array xs =>
      rw [ofJson_array] at member
      obtain ⟨x, inside, rfl⟩ : ∃ x ∈ xs, ofJson x = part := by simpa [parts, items, entries] using member
      exact ⟨x, List.mem_append_left _ inside, rfl⟩
  | object xs =>
      rw [ofJson_object] at member
      obtain ⟨⟨name, value⟩, inside, rfl⟩ := List.mem_map.mp member
      have given := mem_of_lastGiven? (mem_collect_iff.mp inside)
      obtain ⟨x, inMembers, same⟩ := List.mem_map.mp given
      cases same
      exact ⟨x.2, Json.mem_parts_of_mem_members inMembers, rfl⟩
  | _ => rw [ofJson] at member; cases member

/-- What all documents in a tree have in common carries over to their values. -/
theorem every_ofJson {P : Json → Prop} {Q : Value → Prop} (carries : ∀ document, P document → Q (ofJson document))
    {document : Json} (every : document.Every P) : (ofJson document).Every Q := by
  induction every with
  | @mk document here below ih =>
      refine .mk (carries document here) ?_
      intro part member
      obtain ⟨x, inside, rfl⟩ := exists_of_mem_parts_ofJson member
      exact ih x inside

end Value

end RecordCheck
