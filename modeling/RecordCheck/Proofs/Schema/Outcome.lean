import RecordCheck.Proofs.Schema.Walk

/-!
# The outcome of a validation

A validation comes to an end in one of two ways. Either every field passes: then every field is run once and nothing is
reported. Or some field fails after others that pass: then the fields up to this one are run, the rest is not, the
failure is reported and returned. `Schema.Outcome` says this of a schema and properties, with the result, the runs of
fields and the events told apart.
-/

namespace RecordCheck

variable {ν : Type}

namespace Schema

/--
The verdict of a field on properties: a checker looks at the property of its own name, or finds it absent, and a
validator looks at all properties.
-/
inductive Field.Judges (props : Props) (name : String) : Field ν → Verdict → Prop where
  | supplied {checker : Checker ν} {value : Value} (held : (name, value) ∈ props.entries) :
      Judges props name (.single checker) (checker.check value name).result
  | absent {checker : Checker ν} (missing : name ∉ props.keys) :
      Judges props name (.single checker) (if checker.isRequired then .error (.missing name) else .ok ())
  | whole {validator : Props → String → Traced ν Verdict} :
      Judges props name (.whole validator) (validator props name).result

theorem result_checkAbsent (isRequired : Bool) (name : String) :
    (checkAbsent isRequired name : Traced ν Verdict).result = if isRequired then .error (.missing name) else .ok () := by
  cases isRequired with
  | true => rfl
  | false => rfl

/-- A run of a field comes to the verdict of the field. -/
theorem Field.judges_iff {props : Props} {name : String} {field : Field ν} {verdict : Verdict} :
    field.Judges props name verdict ↔ (field.run props name).result = verdict := by
  constructor
  · intro judged
    cases judged with
    | supplied held =>
        have found : props.get? name = some _ := lookup_of_mem props.distinct held
        rw [run, found]
        rfl
    | absent missing =>
        have found : props.get? name = none := lookup_eq_none_of_notMem missing
        rw [run, found]
        exact result_checkAbsent _ name
    | whole => rfl
  · rintro rfl
    cases field with
    | whole validator => exact .whole
    | single checker =>
        rw [run]
        cases found : props.get? name with
        | some value => exact .supplied (mem_of_lookup found)
        | none =>
            have missing : name ∉ props.keys := by
              intro supplied
              obtain ⟨value, held⟩ := mem_keysOf_iff.mp supplied
              rw [Record.get?, held] at found
              cases found
            rw [Checker.validate, result_checkAbsent]
            exact .absent missing

/-- A watched field notes its run, and nothing else is noted of it. -/
theorem checks_runField_watched (props : Props) (name : String) (field : Field ν) :
    (runField props (name, field.watched)).checks = [(props, name)] := by
  have reported : ∀ verdict, (report name verdict : Traced (Entry (Watched ν)) _).checks = [] := by
    intro verdict
    cases verdict with
    | ok => rfl
    | error diagnostic => rfl
  have ran : (field.watched.run props name).mapNotes Entry.note =
      (Traced.note (.note (.checked props name))).bind fun _ =>
        ((field.run props name).mapNotes Watched.own).mapNotes .note := rfl
  rw [runField_eq, Traced.checks_bind, ran, Traced.checks_bind, Traced.checks_own, reported]
  rfl

theorem failed_runField (props : Props) (entry : String × Field ν) :
    (runField props entry).failed = (entry.2.run props entry.1).failed :=
  Traced.failed_eq_of_ok_iff runField_ok_iff

/-- The fields up to and including the first that fails are run, each once. -/
theorem checks_validate_watched (schema : Schema ν) (props : Props) :
    (schema.watched.validate props).checks =
      (throughFirst (fun entry => (entry.2.run props entry.1).failed) schema.entries).map
        fun entry => (props, entry.1) := by
  have stops : ∀ entry : String × Field ν,
      (runField props (entry.1, entry.2.watched)).failed = (entry.2.run props entry.1).failed := by
    intro entry
    rw [failed_runField]
    rfl
  have noted : ∀ entry : String × Field ν,
      (runField props (entry.1, entry.2.watched)).notes.filterMap Entry.checked? = [(props, entry.1)] :=
    fun entry => checks_runField_watched props entry.1 entry.2
  rw [Traced.checks, validate, watched, Record.map, Traced.firstFailure_map, Traced.notes_firstFailure,
    List.filterMap_flatMap, List.map_eq_flatMap]
  simp only [stops, noted]

theorem events_runField (props : Props) (name : String) (field : Field ν) :
    (runField props (name, field)).events = (report name (field.run props name).result : Traced (Entry ν) _).events := by
  rw [runField_eq, Traced.events_bind, Traced.events_mapNotes_note, List.nil_append]
  rfl

theorem events_runField_of_ok {props : Props} {entry : String × Field ν}
    (passed : (entry.2.run props entry.1).result = .ok ()) : (runField props entry).events = [] := by
  rw [events_runField, passed]
  rfl

theorem events_runField_of_error {props : Props} {name : String} {field : Field ν} {diagnostic : Diagnostic}
    (failure : (field.run props name).result = .error diagnostic) :
    (runField props (name, field)).events = [.fieldFailed name diagnostic.field diagnostic.code] := by
  rw [events_runField, failure]
  rfl

theorem events_validate (schema : Schema ν) (props : Props) :
    (schema.validate props).events =
      (throughFirst (fun entry => (entry.2.run props entry.1).failed) schema.entries).flatMap
        fun entry => (runField props entry).events := by
  rw [Traced.events, validate, Traced.notes_firstFailure, List.filterMap_flatMap]
  simp only [failed_runField]
  rfl

/-- A validation fails with the failure of the first field that fails. -/
theorem validate_error_iff {schema : Schema ν} {props : Props} {refusal : Refusal} :
    (schema.validate props).result = .error refusal ↔
      ∃ before name field after diagnostic, schema.entries = before ++ (name, field) :: after ∧
        (∀ earlier ∈ before, (earlier.2.run props earlier.1).result = .ok ()) ∧
        (field.run props name).result = .error diagnostic ∧ refusal = .invalid diagnostic := by
  rw [validate, Traced.firstFailure_error_iff]
  simp only [runField_ok_iff]
  constructor
  · rintro ⟨before, ⟨name, field⟩, after, order, passed, refused⟩
    obtain ⟨diagnostic, failure, same⟩ := runField_error_iff.mp refused
    exact ⟨before, name, field, after, diagnostic, order, passed, failure, same⟩
  · rintro ⟨before, name, field, after, diagnostic, order, passed, failure, same⟩
    exact ⟨before, (name, field), after, order, passed, runField_error_iff.mpr ⟨diagnostic, failure, same⟩⟩

/-- If all fields pass, all of them are run, and nothing is reported. -/
theorem ran_all {schema : Schema ν} {props : Props}
    (each : ∀ entry ∈ schema.entries, (entry.2.run props entry.1).result = .ok ()) :
    (schema.watched.validate props).checks = schema.keys.map (fun name => (props, name)) ∧
      (schema.validate props).events = [] := by
  have all : throughFirst (fun entry => (entry.2.run props entry.1).failed) schema.entries = schema.entries :=
    throughFirst_eq_self fun entry member => Traced.failed_eq_false_iff.mpr (each entry member)
  rw [checks_validate_watched, events_validate, all]
  constructor
  · rw [Record.keys, keysOf, List.map_map]
    rfl
  · apply List.flatMap_eq_nil_iff.mpr
    intro entry member
    exact events_runField_of_ok (each entry member)

/-- A field that fails after others that pass is the last that is run, and the only one that is reported. -/
theorem ran_through {schema : Schema ν} {props : Props} {before after : List (String × Field ν)} {name : String}
    {field : Field ν} {diagnostic : Diagnostic} (order : schema.entries = before ++ (name, field) :: after)
    (passed : ∀ earlier ∈ before, (earlier.2.run props earlier.1).result = .ok ())
    (failure : (field.run props name).result = .error diagnostic) :
    (schema.watched.validate props).checks = (keysOf before ++ [name]).map (fun name => (props, name)) ∧
      (schema.validate props).events = [.fieldFailed name diagnostic.field diagnostic.code] := by
  have looked : throughFirst (fun entry => (entry.2.run props entry.1).failed) schema.entries =
      before ++ [(name, field)] := by
    rw [order]
    exact throughFirst_of_stop (fun earlier member => Traced.failed_eq_false_iff.mpr (passed earlier member))
      (Traced.failed_of_error failure)
  have silent : before.flatMap (fun entry => (runField props entry).events) = [] :=
    List.flatMap_eq_nil_iff.mpr fun earlier member => events_runField_of_ok (passed earlier member)
  rw [checks_validate_watched, events_validate, looked]
  constructor
  · simp only [keysOf, List.map_append, List.map_map, List.map_cons, List.map_nil]
    rfl
  · rw [List.flatMap_append, silent, List.flatMap_singleton, List.nil_append, events_runField_of_error failure]

/-- A validation from end to end: what it returns, which fields it runs and what it reports. -/
structure Outcome (schema : Schema ν) (props : Props) : Prop where
  /-- The watch, which the runs of fields are read off, changes nothing else. -/
  unwatched : (schema.watched.validate props).unwatched = schema.validate props
  passes_iff :
    (schema.validate props).result = .ok () ↔ ∀ entry ∈ schema.entries, entry.2.Judges props entry.1 (.ok ())
  /-- If all fields pass, each is run once in the order of declaration, and nothing is reported. -/
  passed (success : (schema.validate props).result = .ok ()) :
    (schema.watched.validate props).checks = schema.keys.map (fun name => (props, name)) ∧
      (schema.validate props).events = []
  /-- If some field fails, there is a first one that does. -/
  fails (failure : (schema.validate props).result ≠ .ok ()) :
    ∃ before name field after diagnostic, schema.entries = before ++ (name, field) :: after ∧
      (∀ earlier ∈ before, earlier.2.Judges props earlier.1 (.ok ())) ∧ field.Judges props name (.error diagnostic)
  /-- The first field that fails is the last that is run. Its failure is returned, and reported once. -/
  failed {before after : List (String × Field ν)} {name : String} {field : Field ν} {diagnostic : Diagnostic}
    (order : schema.entries = before ++ (name, field) :: after)
    (passed : ∀ earlier ∈ before, earlier.2.Judges props earlier.1 (.ok ()))
    (failure : field.Judges props name (.error diagnostic)) :
    (schema.validate props).result = .error (.invalid diagnostic) ∧
      (schema.watched.validate props).checks = (keysOf before ++ [name]).map (fun name => (props, name)) ∧
      ∃ event, (schema.validate props).events = [event] ∧ event.level = .debug ∧
        event.fields = [("field", name), ("path", diagnostic.field), ("code", diagnostic.code.text)]
  /-- The refusal speaks for the diagnostic that it holds. -/
  refused {refusal : Refusal} (failure : (schema.validate props).result = .error refusal) :
    ∃ diagnostic, refusal = .invalid diagnostic ∧ refusal.message = diagnostic.message ∧
      refusal.code? = some diagnostic.code ∧ refusal.diagnostic? = some diagnostic

/-- Every validation comes to its end in one of the two ways. -/
theorem validate_outcome (schema : Schema ν) (props : Props) : schema.Outcome props where
  unwatched := schema.unwatched_validate props
  passes_iff := by
    rw [validate_ok_iff]
    simp only [Field.judges_iff]
  passed success := ran_all (validate_ok_iff.mp success)
  fails failure := by
    cases outcome : (schema.validate props).result with
    | ok => exact absurd outcome failure
    | error refusal =>
        obtain ⟨before, name, field, after, diagnostic, order, passed, failed, -⟩ := validate_error_iff.mp outcome
        exact ⟨before, name, field, after, diagnostic, order,
          fun earlier member => Field.judges_iff.mpr (passed earlier member), Field.judges_iff.mpr failed⟩
  failed {before after name field diagnostic} order passed failure := by
    simp only [Field.judges_iff] at passed failure
    obtain ⟨checks, events⟩ := ran_through order passed failure
    have result := validate_error_iff.mpr ⟨before, name, field, after, diagnostic, order, passed, failure, rfl⟩
    exact ⟨result, checks, _, events, rfl, rfl⟩
  refused failure := by
    obtain ⟨diagnostic, rfl⟩ := exists_invalid_of_validate_error failure
    exact ⟨diagnostic, rfl, rfl, rfl, rfl⟩

/-- A booking needs a room, and a day of departure goes with one of arrival. -/
def booking : Schema Unit :=
  .ofList [("room", .single Checker.string.required), ("guests", .single .number),
    ("departure", .whole fun props name =>
      if props.contains "arrival" then .ok else .fail (.custom name "departure without arrival")),
    ("remark", .single .string)]

/-- A booking without a number of guests and a day of arrival; the remark would fail as well. -/
def unarrived : Props := .ofList [("remark", .null), ("departure", .string "May 3"), ("room", .string "12")]

theorem validate_outcome_unarrived :
    (booking.validate unarrived).result = .error (.invalid (.custom "departure" "departure without arrival")) ∧
      (booking.watched.validate unarrived).checks =
        [(unarrived, "room"), (unarrived, "guests"), (unarrived, "departure")] ∧
      (booking.validate unarrived).events = [.fieldFailed "departure" "departure" .custom] := by
  have order : booking.entries =
      [("room", .single Checker.string.required), ("guests", .single .number)] ++
        ("departure", .whole fun props name =>
          if props.contains "arrival" then .ok else .fail (.custom name "departure without arrival")) ::
        [("remark", .single .string)] := rfl
  have room : (Field.single (Checker.string.required : Checker Unit)).Judges unarrived "room" (.ok ()) :=
    Field.judges_iff.mpr rfl
  have guests : (Field.single (.number : Checker Unit)).Judges unarrived "guests" (.ok ()) :=
    Field.judges_iff.mpr rfl
  obtain ⟨result, checks, -⟩ :=
    (booking.validate_outcome unarrived).failed order (by simp [room, guests]) (Field.judges_iff.mpr rfl)
  exact ⟨result, checks, rfl⟩

end Schema

end RecordCheck
