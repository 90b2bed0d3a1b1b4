import RecordCheck.Proofs.Checker.Visit
import RecordCheck.Proofs.Record.Deduplicated
import RecordCheck.Proofs.Schema.Outcome

/-!
# Declaring a schema

However a schema is made, field by field or from a list, it is the record of the fields that were declared: each name is
in the place where it was declared first, with the field that was declared last. `Schema.DeclaredAs` says what follows
for all that looks at a schema. A shape that is given a name more than once is the shape of the deduplicated fields.
-/

namespace RecordCheck

variable {ν : Type}

/-- The note that an entry of a log is. -/
def Entry.note? : Entry ν → Option ν
  | note n => some n
  | event _ => none

namespace Schema

/-- A step in the making of a schema. -/
inductive Declaration (ν : Type) where
  /-- a field that a checker sees alone -/
  | single (name : String) (checker : Checker ν)
  /-- a field that a validator sees with all others -/
  | whole (name : String) (validator : Props → String → Traced ν Verdict)
  /-- a field of either kind -/
  | insert (name : String) (field : Field ν)
  /-- a schema of checkers, in place of the one that was made before -/
  | ofCheckers (pairs : List (String × Checker ν))

namespace Declaration

/-- The schema after the step. -/
def apply (schema : Schema ν) : Declaration ν → Schema ν
  | single name checker => schema.insert name (.single checker)
  | whole name validator => schema.insert name (.whole validator)
  | insert name field => schema.insert name field
  | ofCheckers pairs => Schema.ofCheckers pairs

/-- The fields that are declared after the step. -/
def extend (given : List (String × Field ν)) : Declaration ν → List (String × Field ν)
  | single name checker => given ++ [(name, .single checker)]
  | whole name validator => given ++ [(name, .whole validator)]
  | insert name field => given ++ [(name, field)]
  | ofCheckers pairs => pairs.map fun pair => (pair.1, .single pair.2)

/-- One step keeps the schema the record of the declared fields. -/
theorem apply_ofList (given : List (String × Field ν)) (declaration : Declaration ν) :
    declaration.apply (Record.ofList given) = Record.ofList (declaration.extend given) := by
  cases declaration with
  | single name checker => exact (Record.ofList_concat given name _).symm
  | whole name validator => exact (Record.ofList_concat given name _).symm
  | insert name field => exact (Record.ofList_concat given name field).symm
  | ofCheckers pairs => rfl

end Declaration

/-- The schema that a sequence of steps makes. -/
def declare (declarations : List (Declaration ν)) : Schema ν := declarations.foldl Declaration.apply .empty

/-- The fields that a sequence of steps declares, repeated names included. -/
def declared (declarations : List (Declaration ν)) : List (String × Field ν) :=
  declarations.foldl Declaration.extend []

theorem declare_eq_ofList (declarations : List (Declaration ν)) :
    declare declarations = Record.ofList (declared declarations) := by
  induction declarations using List.reverseRecOn with
  | nil => rfl
  | append_singleton declarations last ih =>
      rw [declare, declared, List.foldl_concat, List.foldl_concat, ← declare, ih, last.apply_ofList, ← declared]

/-- A schema that comes from declared fields, among which names may be repeated, and what those see of it who use it. -/
structure DeclaredAs (schema : Schema ν) (given : List (String × Field ν)) : Prop extends schema.GivenAs given where
  /-- Of the fields that are run, each is the last of its name, and it is run in the place of the first. -/
  checks (props : Props) :
    (schema.watched.validate props).checks =
      (throughFirst (fun entry => (entry.2.run props entry.1).failed) (deduplicated given)).map
        fun entry => (props, entry.1)
  notes (props : Props) :
    (schema.validate props).notes.filterMap Entry.note? =
      (throughFirst (fun entry => (entry.2.run props entry.1).failed) (deduplicated given)).flatMap
        fun entry => (entry.2.run props entry.1).notes
  /-- What a field would do that is declared again later does not matter. -/
  replaced {before after : List (String × Field ν)} {name : String} {old : Field ν}
    (order : given = before ++ (name, old) :: after) (again : name ∈ keysOf after) (other : Field ν) (props : Props) :
    schema.validate props = validate (Record.ofList (before ++ (name, other) :: after)) props
  undeclared (props : Props) : schema.undeclared props = props.keys.filter fun name => name ∉ keysOf given
  undeclared_eq_nil_iff (props : Props) :
    schema.undeclared props = [] ↔ ∀ name ∈ props.keys, ∃ field, (name, field) ∈ given

/-- What a field notes is what the log of its run holds besides events. -/
theorem notes_runField (props : Props) (entry : String × Field ν) :
    (runField props entry).notes.filterMap Entry.note? = (entry.2.run props entry.1).notes := by
  obtain ⟨name, field⟩ := entry
  have own : ((field.run props name).notes.map Entry.note).filterMap Entry.note? = (field.run props name).notes := by
    rw [List.filterMap_map]
    exact List.filterMap_some
  have reported : ∀ verdict, (report name verdict : Traced (Entry ν) _).notes.filterMap Entry.note? = [] := by
    intro verdict
    cases verdict with
    | ok => rfl
    | error diagnostic => rfl
  rw [runField_eq]
  simp only [Traced.bind, Traced.mapNotes, List.filterMap_append, own, reported, List.append_nil]

theorem notes_validate (schema : Schema ν) (props : Props) :
    (schema.validate props).notes.filterMap Entry.note? =
      (throughFirst (fun entry => (entry.2.run props entry.1).failed) schema.entries).flatMap
        fun entry => (entry.2.run props entry.1).notes := by
  rw [validate, Traced.notes_firstFailure, List.filterMap_flatMap]
  simp only [failed_runField, notes_runField]

theorem undeclared_ofList (given : List (String × Field ν)) (props : Props) :
    undeclared (Record.ofList given) props = props.keys.filter fun name => name ∉ keysOf given := by
  rw [undeclared_eq_filter]
  simp only [Record.keys, Record.entries_ofList, mem_keysOf_deduplicated]

theorem declaredAs_ofList (given : List (String × Field ν)) : DeclaredAs (Record.ofList given) given where
  toGivenAs := Record.givenAs_ofList given
  checks props := by rw [checks_validate_watched, Record.entries_ofList]
  notes props := by rw [notes_validate, Record.entries_ofList]
  replaced {before after name old} order again other props := by
    have same : Record.ofList given = Record.ofList (before ++ (name, other) :: after) := by
      apply Record.ext
      rw [Record.entries_ofList, Record.entries_ofList, order, deduplicated_of_replaced old other again]
    rw [same]
  undeclared props := undeclared_ofList given props
  undeclared_eq_nil_iff props := by
    rw [undeclared_ofList, List.filter_eq_nil_iff]
    refine forall₂_congr fun name _ => ?_
    rw [decide_eq_true_eq, not_not, keysOf, List.mem_map]
    constructor
    · rintro ⟨⟨key, field⟩, member, rfl⟩
      exact ⟨field, member⟩
    · rintro ⟨field, member⟩
      exact ⟨(name, field), member, rfl⟩

/--
However a schema is made, it comes from the fields that were declared. The same holds of the fields of a shape, which
checks every value as the shape of its deduplicated fields does.
-/
theorem declaredAs_declared (declarations : List (Declaration ν)) :
    (declare declarations).DeclaredAs (declared declarations) ∧
      ∀ (pairs : List (String × Checker ν)) (value : Value) (field : String),
        (Checker.shape pairs).check value field = (Checker.shape (deduplicated pairs)).check value field := by
  constructor
  · rw [declare_eq_ofList]
    exact declaredAs_ofList (declared declarations)
  · intro pairs value field
    rw [Checker.shape, Checker.shape, collect_eq_deduplicated, collect_eq_deduplicated, deduplicated_deduplicated]

/-- A validator that notes its number and fails if told so. -/
def numbered (number : Nat) (fails : Bool) : Props → String → Traced Nat Verdict :=
  fun _ name => ⟨if fails then .error (.custom name "refused") else .ok (), [number]⟩

/-- Steps that declare one name three times, and others only in a schema that is given up. -/
def redeclared : List (Declaration Nat) :=
  [.single "old" .string, .ofCheckers [("size", .number), ("color", .string)], .whole "size" (numbered 0 true),
    .insert "weight" (.whole (numbered 1 false)), .whole "size" (numbered 2 false)]

theorem declaredAs_redeclared :
    (declare redeclared).keys = ["size", "color", "weight"] ∧
      ((declare redeclared).validate .empty).notes.filterMap Entry.note? = [2, 1] ∧
      (declare redeclared).undeclared (.ofList [("old", .null), ("color", .string "red")]) = ["old"] := by
  have made := (declaredAs_declared redeclared).1
  refine ⟨made.keys.trans ?_, (made.notes .empty).trans ?_, (made.undeclared _).trans ?_⟩
  · rfl
  · rfl
  · rfl

end Schema

end RecordCheck
