import RecordCheck.Traced

/-!
# Runs that stop

`throughFirst stop items` are the items that a run looks at when it goes through a list and ends at the first item
that stops it. A run up to the first failure fails if and only if some item fails after others that succeed
(`firstFailure_error_iff`), and its notes are those of the items it looked at (`notes_firstFailure`).
-/

namespace RecordCheck

variable {ν μ κ α β ε δ : Type}

/-- The items up to and including the first that stops. -/
def throughFirst (stop : α → Bool) : List α → List α
  | [] => []
  | item :: rest => item :: if stop item then [] else throughFirst stop rest

theorem mem_of_mem_throughFirst {stop : α → Bool} {items : List α} {item : α}
    (member : item ∈ throughFirst stop items) : item ∈ items := by
  induction items with
  | nil => exact member
  | cons head rest ih =>
      rcases List.mem_cons.mp member with rfl | later
      · exact List.mem_cons_self
      · split at later
        · cases later
        · exact List.mem_cons_of_mem _ (ih later)

/-- Nothing is looked at after the first item that stops. -/
theorem throughFirst_of_stop {stop : α → Bool} {before after : List α} {item : α}
    (passed : ∀ earlier ∈ before, stop earlier = false) (stopped : stop item = true) :
    throughFirst stop (before ++ item :: after) = before ++ [item] := by
  induction before with
  | nil => simp [throughFirst, stopped]
  | cons head rest ih =>
      obtain ⟨here, later⟩ := List.forall_mem_cons.mp passed
      simp [throughFirst, here, ih later]

/-- Everything is looked at if nothing stops. -/
theorem throughFirst_eq_self {stop : α → Bool} {items : List α} (passed : ∀ item ∈ items, stop item = false) :
    throughFirst stop items = items := by
  induction items with
  | nil => rfl
  | cons item rest ih =>
      obtain ⟨here, later⟩ := List.forall_mem_cons.mp passed
      simp [throughFirst, here, ih later]

theorem throughFirst_map (stop : β → Bool) (f : α → β) (items : List α) :
    throughFirst stop (items.map f) = (throughFirst (fun item => stop (f item)) items).map f := by
  induction items with
  | nil => rfl
  | cons item rest ih =>
      simp only [List.map_cons, throughFirst]
      split
      · rfl
      · rw [ih]

namespace Traced

/-- Whether a step failed. -/
def failed (step : Traced ν (Except ε Unit)) : Bool := !step.result.isOk

theorem failed_eq_false_iff {step : Traced ν (Except ε Unit)} :
    step.failed = false ↔ step.result = .ok () := by
  unfold failed
  cases step.result with
  | ok => simp [Except.isOk, Except.toBool]
  | error => simp [Except.isOk, Except.toBool]

theorem failed_of_error {step : Traced ν (Except ε Unit)} {error : ε} (outcome : step.result = .error error) :
    step.failed = true := by
  simp [failed, outcome, Except.isOk, Except.toBool]

theorem failed_eq_of_ok_iff {step : Traced ν (Except ε Unit)} {step' : Traced μ (Except δ Unit)}
    (same : step.result = .ok () ↔ step'.result = .ok ()) : step.failed = step'.failed := by
  rw [← failed_eq_false_iff, ← failed_eq_false_iff] at same
  rw [← Bool.not_inj_iff, Bool.eq_iff_iff]
  simpa using same

@[simp] theorem notes_mapError (f : ε → δ) (step : Traced ν (Except ε Unit)) :
    (step.mapError f).notes = step.notes := rfl

theorem mapError_ok_iff {f : ε → δ} {step : Traced ν (Except ε Unit)} :
    (step.mapError f).result = .ok () ↔ step.result = .ok () := by
  obtain ⟨result, notes⟩ := step
  cases result with
  | ok => exact iff_of_true rfl rfl
  | error => exact iff_of_false nofun nofun

theorem mapError_error_iff {f : ε → δ} {step : Traced ν (Except ε Unit)} {error : δ} :
    (step.mapError f).result = .error error ↔ ∃ cause, step.result = .error cause ∧ f cause = error := by
  obtain ⟨result, notes⟩ := step
  cases result with
  | ok =>
      refine iff_of_false nofun ?_
      rintro ⟨cause, failure, -⟩
      cases failure
  | error cause =>
      constructor
      · intro failure
        exact ⟨cause, rfl, Except.error.inj failure⟩
      · rintro ⟨same, failure, rfl⟩
        cases failure
        rfl

theorem firstFailure_map (step : β → Traced ν (Except ε Unit)) (f : α → β) (items : List α) :
    firstFailure step (items.map f) = firstFailure (fun item => step (f item)) items := by
  induction items with
  | nil => rfl
  | cons item rest ih => simp only [List.map_cons, firstFailure, ih]

theorem firstFailure_congr {step step' : α → Traced ν (Except ε Unit)} {items : List α}
    (same : ∀ item ∈ items, step item = step' item) : firstFailure step items = firstFailure step' items := by
  induction items with
  | nil => rfl
  | cons item rest ih =>
      obtain ⟨here, later⟩ := List.forall_mem_cons.mp same
      simp only [firstFailure, here, ih later]

/-- A run fails with the failure of the first item that fails. -/
theorem firstFailure_error_iff {step : α → Traced ν (Except ε Unit)} {items : List α} {error : ε} :
    (firstFailure step items).result = .error error ↔
      ∃ before item after, items = before ++ item :: after ∧
        (∀ earlier ∈ before, (step earlier).result = .ok ()) ∧ (step item).result = .error error := by
  induction items with
  | nil => simp [firstFailure, ok]
  | cons head rest ih =>
      simp only [firstFailure, andThen]
      cases outcome : (step head).result with
      | ok =>
          simp only [ih]
          constructor
          · rintro ⟨before, item, after, rfl, passed, failure⟩
            exact ⟨head :: before, item, after, rfl, List.forall_mem_cons.mpr ⟨outcome, passed⟩, failure⟩
          · rintro ⟨before, item, after, split, passed, failure⟩
            cases before with
            | nil =>
                obtain ⟨rfl, -⟩ := List.cons.inj split
                rw [outcome] at failure
                cases failure
            | cons first before =>
                obtain ⟨-, rfl⟩ := List.cons.inj split
                exact ⟨before, item, after, rfl, (List.forall_mem_cons.mp passed).2, failure⟩
      | error cause =>
          simp only [outcome]
          constructor
          · intro same
            exact ⟨[], head, rest, rfl, by simp, outcome.trans same⟩
          · rintro ⟨before, item, after, split, passed, failure⟩
            cases before with
            | nil =>
                obtain ⟨rfl, -⟩ := List.cons.inj split
                exact outcome.symm.trans failure
            | cons first before =>
                obtain ⟨rfl, -⟩ := List.cons.inj split
                have success := (List.forall_mem_cons.mp passed).1
                rw [outcome] at success
                cases success

/-- The notes of a run are those of the items up to and including the first that fails. -/
theorem notes_firstFailure (step : α → Traced ν (Except ε Unit)) (items : List α) :
    (firstFailure step items).notes =
      (throughFirst (fun item => (step item).failed) items).flatMap fun item => (step item).notes := by
  induction items with
  | nil => rfl
  | cons item rest ih =>
      simp only [firstFailure, andThen, throughFirst]
      cases outcome : (step item).result with
      | ok => simp [failed_eq_false_iff.mpr outcome, ih]
      | error cause => simp [failed_of_error outcome]

theorem exists_of_mem_notes_firstFailure {step : α → Traced ν (Except ε Unit)} {items : List α} {n : ν}
    (member : n ∈ (firstFailure step items).notes) : ∃ item ∈ items, n ∈ (step item).notes := by
  rw [notes_firstFailure] at member
  obtain ⟨item, looked, taken⟩ := List.mem_flatMap.mp member
  exact ⟨item, mem_of_mem_throughFirst looked, taken⟩

/-- Applies a function to the notes, and drops those that it maps to nothing. -/
def filterMapNotes (f : ν → Option μ) (step : Traced ν α) : Traced μ α := ⟨step.result, step.notes.filterMap f⟩

theorem filterMapNotes_mapNotes (f : μ → Option κ) (g : ν → μ) (step : Traced ν α) :
    (step.mapNotes g).filterMapNotes f = step.filterMapNotes fun n => f (g n) := by
  simp only [filterMapNotes, mapNotes, List.filterMap_map, Function.comp_def]

theorem filterMapNotes_bind (f : ν → Option μ) (step : Traced ν α) (next : α → Traced ν β) :
    (step.bind next).filterMapNotes f = (step.filterMapNotes f).bind fun a => (next a).filterMapNotes f := by
  simp only [filterMapNotes, bind, List.filterMap_append]

theorem filterMapNotes_andThen (f : ν → Option μ) (first : Traced ν (Except ε Unit))
    (second : Unit → Traced ν (Except ε Unit)) :
    (first.andThen second).filterMapNotes f =
      (first.filterMapNotes f).andThen fun done => (second done).filterMapNotes f := by
  unfold andThen
  cases outcome : first.result with
  | ok => simp only [filterMapNotes, outcome, List.filterMap_append]
  | error => simp only [filterMapNotes, outcome]

theorem filterMapNotes_firstFailure (f : ν → Option μ) (step : α → Traced ν (Except ε Unit)) (items : List α) :
    (firstFailure step items).filterMapNotes f = firstFailure (fun item => (step item).filterMapNotes f) items := by
  induction items with
  | nil => rfl
  | cons item rest ih => simp only [firstFailure, filterMapNotes_andThen, ih]

end Traced

end RecordCheck
