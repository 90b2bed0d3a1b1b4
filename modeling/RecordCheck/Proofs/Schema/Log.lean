import RecordCheck.Proofs.Record
import RecordCheck.Proofs.Traced
import RecordCheck.Schema

/-!
# The log of a validation

The log of a validation holds the notes of the fields and the failure of one of them (`Schema.mem_notes_validate`).
Which fields were run, it does not tell. A watched schema notes every run of a field before it happens; without these
notes it is validated as the schema that is watched (`Schema.unwatched_validate`).
-/

namespace RecordCheck

variable {ν α : Type}

/-- What is noted of a watched run. -/
inductive Watched (ν : Type) where
  /-- a field is run on the properties for a name -/
  | checked (props : Props) (name : String)
  /-- the properties are rendered -/
  | rendered (props : Props)
  /-- a note of what is watched -/
  | own (n : ν)

namespace Entry

/-- The event that an entry holds. -/
def event? : Entry ν → Option Event
  | note _ => none
  | event e => some e

/-- The properties and the name for which a field is run, if the entry notes that. -/
def checked? : Entry (Watched ν) → Option (Props × String)
  | note (.checked props name) => some (props, name)
  | _ => none

/-- The properties that are rendered, if the entry notes that. -/
def rendered? : Entry (Watched ν) → Option Props
  | note (.rendered props) => some props
  | _ => none

/-- The entry of the log that is kept without a watch. -/
def unwatched? : Entry (Watched ν) → Option (Entry ν)
  | note (.own n) => some (.note n)
  | note _ => none
  | event e => some (.event e)

end Entry

namespace Traced

/-- The events that were reported, the oldest first. -/
def events (run : Traced (Entry ν) α) : List Event := run.notes.filterMap Entry.event?

/-- The events of a level, the oldest first. -/
def eventsAt (run : Traced (Entry ν) α) (level : Level) : List Event :=
  (run.notes.filterMap Entry.event?).filter fun event => event.level = level

/-- The runs of fields, the oldest first. -/
def checks (run : Traced (Entry (Watched ν)) α) : List (Props × String) := run.notes.filterMap Entry.checked?

/-- The properties that were rendered, the oldest first. -/
def renders (run : Traced (Entry (Watched ν)) α) : List Props := run.notes.filterMap Entry.rendered?

theorem events_bind {β : Type} (run : Traced (Entry ν) α) (next : α → Traced (Entry ν) β) :
    (run.bind next).events = run.events ++ (next run.result).events :=
  List.filterMap_append

theorem eventsAt_bind {β : Type} (run : Traced (Entry ν) α) (next : α → Traced (Entry ν) β) (level : Level) :
    (run.bind next).eventsAt level = run.eventsAt level ++ (next run.result).eventsAt level := by
  simp only [eventsAt, bind, List.filterMap_append, List.filter_append]

theorem renders_bind {β : Type} (run : Traced (Entry (Watched ν)) α) (next : α → Traced (Entry (Watched ν)) β) :
    (run.bind next).renders = run.renders ++ (next run.result).renders :=
  List.filterMap_append

theorem checks_bind {β : Type} (run : Traced (Entry (Watched ν)) α) (next : α → Traced (Entry (Watched ν)) β) :
    (run.bind next).checks = run.checks ++ (next run.result).checks :=
  List.filterMap_append

/-- Notes are not events. -/
theorem events_mapNotes_note (run : Traced ν α) : (run.mapNotes Entry.note).events = [] := by
  apply List.filterMap_eq_nil_iff.mpr
  intro entry member
  obtain ⟨n, -, rfl⟩ := List.mem_map.mp member
  rfl

theorem eventsAt_mapNotes_note (run : Traced ν α) (level : Level) :
    (run.mapNotes Entry.note).eventsAt level = [] := by
  rw [eventsAt, ← events, events_mapNotes_note, List.filter_nil]

/-- The run without the notes of the watch. -/
def unwatched (run : Traced (Entry (Watched ν)) α) : Traced (Entry ν) α := run.filterMapNotes Entry.unwatched?

theorem unwatched_bind {β : Type} (run : Traced (Entry (Watched ν)) α) (next : α → Traced (Entry (Watched ν)) β) :
    (run.bind next).unwatched = run.unwatched.bind fun a => (next a).unwatched :=
  filterMapNotes_bind Entry.unwatched? run next

theorem unwatched_andThen (first : Traced (Entry (Watched ν)) (Except Refusal Unit))
    (second : Unit → Traced (Entry (Watched ν)) (Except Refusal Unit)) :
    (first.andThen second).unwatched = first.unwatched.andThen fun done => (second done).unwatched :=
  filterMapNotes_andThen Entry.unwatched? first second

/-- What is blind to the notes of what is watched sees nothing in them. -/
theorem filterMap_own {β : Type} {f : Entry (Watched ν) → Option β} (blind : ∀ n, f (.note (.own n)) = none)
    (run : Traced ν α) : ((run.mapNotes Watched.own).mapNotes Entry.note).notes.filterMap f = [] := by
  apply List.filterMap_eq_nil_iff.mpr
  intro entry member
  obtain ⟨noted, inside, rfl⟩ := List.mem_map.mp member
  obtain ⟨n, -, rfl⟩ := List.mem_map.mp inside
  exact blind n

theorem renders_own (run : Traced ν α) : ((run.mapNotes Watched.own).mapNotes Entry.note).renders = [] :=
  filterMap_own (fun _ => rfl) run

theorem checks_own (run : Traced ν α) : ((run.mapNotes Watched.own).mapNotes Entry.note).checks = [] :=
  filterMap_own (fun _ => rfl) run

/-- The notes of what is watched are all kept. -/
@[simp] theorem unwatched_own (run : Traced ν α) :
    ((run.mapNotes Watched.own).mapNotes Entry.note).unwatched = run.mapNotes .note := by
  rw [unwatched, filterMapNotes_mapNotes, filterMapNotes_mapNotes]
  exact congrArg (Traced.mk run.result) (congrFun List.filterMap_eq_map' run.notes)

end Traced

namespace Schema

/-- The field that notes its runs. -/
def Field.watched (field : Field ν) : Field (Watched ν) :=
  .whole fun props name => (Traced.note (.checked props name)).bind fun _ => (field.run props name).mapNotes .own

/-- The schema of which every field notes its runs. -/
def watched (schema : Schema ν) : Schema (Watched ν) := schema.map Field.watched

theorem undeclared_eq_filter (schema : Schema ν) (props : Props) :
    schema.undeclared props = props.keys.filter fun name => name ∉ schema.keys := by
  apply List.filter_congr
  intro name _
  rw [Bool.eq_iff_iff, Bool.not_eq_true', ← Bool.not_eq_true, Record.contains_iff, decide_eq_true_iff]

theorem undeclared_watched (schema : Schema ν) (props : Props) :
    schema.watched.undeclared props = schema.undeclared props := by
  rw [undeclared_eq_filter, undeclared_eq_filter, watched, Record.keys_map]

/-- What is made of the verdict on a field. -/
def report (name : String) : Verdict → Traced (Entry ν) (Except Refusal Unit)
  | .ok () => .ok
  | .error diagnostic =>
      ⟨.error (.invalid diagnostic), [.event (.fieldFailed name diagnostic.field diagnostic.code)]⟩

theorem runField_eq (props : Props) (name : String) (field : Field ν) :
    runField props (name, field) = ((field.run props name).mapNotes .note).bind (report name) := by
  unfold runField Traced.bind Traced.mapNotes
  cases outcome : (field.run props name).result with
  | ok => simp only [report, outcome, Traced.ok, List.append_nil]
  | error diagnostic => simp only [report, outcome]

/-- An entry of the log of a validation is a note of some field, or the failure of one. -/
theorem mem_notes_validate {schema : Schema ν} {props : Props} {entry : Entry ν}
    (member : entry ∈ (schema.validate props).notes) :
    (∃ name field, (name, field) ∈ schema.entries ∧ ∃ n ∈ (field.run props name).notes, entry = .note n) ∨
      ∃ name path code, entry = .event (.fieldFailed name path code) := by
  obtain ⟨⟨name, field⟩, declared, taken⟩ := Traced.exists_of_mem_notes_firstFailure member
  rw [runField_eq] at taken
  rcases List.mem_append.mp taken with own | reported
  · obtain ⟨n, noted, rfl⟩ := List.mem_map.mp own
    exact .inl ⟨name, field, declared, n, noted, rfl⟩
  · right
    change entry ∈ (report name (field.run props name).result).notes at reported
    cases outcome : (field.run props name).result with
    | ok =>
        rw [outcome] at reported
        cases reported
    | error diagnostic =>
        rw [outcome] at reported
        exact ⟨name, diagnostic.field, diagnostic.code, List.mem_singleton.mp reported⟩

/-- A field that fails has its diagnostic returned as a refusal. -/
theorem runField_error_iff {props : Props} {name : String} {field : Field ν} {refusal : Refusal} :
    (runField props (name, field)).result = .error refusal ↔
      ∃ diagnostic, (field.run props name).result = .error diagnostic ∧ refusal = .invalid diagnostic := by
  rw [runField_eq]
  change (report name (field.run props name).result : Traced (Entry ν) _).result = .error refusal ↔ _
  cases (field.run props name).result with
  | ok => simp [report, Traced.ok]
  | error diagnostic => simp [report, eq_comm]

theorem exists_invalid_of_validate_error {schema : Schema ν} {props : Props} {refusal : Refusal}
    (failure : (schema.validate props).result = .error refusal) : ∃ diagnostic, refusal = .invalid diagnostic := by
  obtain ⟨before, ⟨name, field⟩, after, -, -, refused⟩ := Traced.firstFailure_error_iff.mp failure
  obtain ⟨diagnostic, -, same⟩ := runField_error_iff.mp refused
  exact ⟨diagnostic, same⟩

/-- No validation gives a warning. -/
theorem eventsAt_warn_validate (schema : Schema ν) (props : Props) :
    (schema.validate props).eventsAt .warn = [] := by
  apply List.filter_eq_nil_iff.mpr
  intro event member
  obtain ⟨entry, taken, found⟩ := List.mem_filterMap.mp member
  rcases mem_notes_validate taken with ⟨name, field, -, n, -, rfl⟩ | ⟨name, path, code, rfl⟩
  · cases found
  · cases found
    simp [Event.level]

theorem unwatched_report (name : String) (verdict : Verdict) :
    (report name verdict : Traced (Entry (Watched ν)) (Except Refusal Unit)).unwatched = report name verdict := by
  cases verdict with
  | ok => rfl
  | error diagnostic => rfl

theorem unwatched_runField (props : Props) (name : String) (field : Field ν) :
    (runField props (name, field.watched)).unwatched = runField props (name, field) := by
  calc (runField props (name, field.watched)).unwatched
    _ = (((Traced.note (.note (.checked props name))).bind fun _ =>
          ((field.run props name).mapNotes Watched.own).mapNotes .note).bind (report name)).unwatched := by
        rw [runField_eq]
        rfl
    _ = (((field.run props name).mapNotes Watched.own).mapNotes .note).unwatched.bind
          fun verdict => (report name verdict).unwatched := by
        rw [Traced.unwatched_bind, Traced.unwatched_bind]
        rfl
    _ = ((field.run props name).mapNotes .note).bind (report name) := by
        simp only [Traced.unwatched_own, unwatched_report]
    _ = runField props (name, field) := (runField_eq props name field).symm

/-- A watch changes neither the result of a validation nor what is noted of it otherwise. -/
theorem unwatched_validate (schema : Schema ν) (props : Props) :
    (schema.watched.validate props).unwatched = schema.validate props := by
  rw [Traced.unwatched, validate, Traced.filterMapNotes_firstFailure, watched, Record.map, Traced.firstFailure_map]
  exact congrArg (Traced.firstFailure · schema.entries) (funext fun entry => unwatched_runField props entry.1 entry.2)

/-- Nothing is rendered while properties are validated. -/
theorem renders_validate_watched (schema : Schema ν) (props : Props) :
    (schema.watched.validate props).renders = [] := by
  apply List.filterMap_eq_nil_iff.mpr
  intro entry taken
  rcases mem_notes_validate taken with ⟨name, field, declared, n, noted, rfl⟩ | ⟨name, path, code, rfl⟩
  · obtain ⟨original, -, same⟩ := List.mem_map.mp declared
    cases same
    -- a watched field notes its run first, and then what it notes unwatched
    rcases List.mem_cons.mp noted with rfl | own
    · rfl
    · obtain ⟨n, -, rfl⟩ := List.mem_map.mp own
      rfl
  · rfl

end Schema

end RecordCheck
