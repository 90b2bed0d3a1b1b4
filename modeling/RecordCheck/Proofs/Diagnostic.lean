import Mathlib.Data.List.Induction
import RecordCheck.Diagnostic

/-!
# Wrapped diagnostics

The field of a diagnostic is that of its first link, its text that of the first link that is not a nested one, and its
root cause is its last link. A `Wrapper` is put on a diagnostic as it is when it passes an array or an object; diagnostics
that are put together by hand may have wrappers with any fields. Whatever the wrappers are, the root cause stays, and the
text is that of the last element wrapper put on (`Diagnostic.wrapping_laws`).
-/

namespace RecordCheck

namespace Diagnostic

theorem chain_of_leaf {diagnostic : Diagnostic} (leaf : diagnostic.cause? = none) :
    diagnostic.chain = [diagnostic] := by
  cases diagnostic with
  | element | nested => cases leaf
  | _ => rfl

theorem rootCause_of_leaf {diagnostic : Diagnostic} (leaf : diagnostic.cause? = none) :
    diagnostic.rootCause = diagnostic := by
  cases diagnostic with
  | element | nested => cases leaf
  | _ => rfl

theorem self_mem_chain (diagnostic : Diagnostic) : diagnostic ∈ diagnostic.chain := by
  cases diagnostic with
  | _ => exact List.mem_cons_self

theorem rootCause_mem_chain (diagnostic : Diagnostic) : diagnostic.rootCause ∈ diagnostic.chain := by
  induction diagnostic with
  | element field cause ih => exact List.mem_cons_of_mem _ ih
  | nested path cause ih => exact List.mem_cons_of_mem _ ih
  | _ => exact List.mem_singleton_self _

theorem field_asNested (diagnostic : Diagnostic) : diagnostic.asNested.field = diagnostic.field := by
  cases diagnostic with
  | _ => rfl

theorem message_asNested (diagnostic : Diagnostic) : diagnostic.asNested.message = diagnostic.message := by
  cases diagnostic with
  | _ => rfl

theorem rootCause_asNested (diagnostic : Diagnostic) :
    diagnostic.asNested.rootCause = diagnostic.rootCause := by
  cases diagnostic with
  | _ => rfl

/-- A diagnostic gets at most one link more as a nested failure, and none if it is nested. -/
theorem chain_asNested (diagnostic : Diagnostic) :
    diagnostic.asNested.chain =
      if diagnostic.code = .nested then diagnostic.chain
      else nested diagnostic.field diagnostic :: diagnostic.chain := by
  cases diagnostic with
  | _ => rfl

theorem mem_chain_asNested {diagnostic link : Diagnostic} (member : link ∈ diagnostic.asNested.chain) :
    link ∈ diagnostic.chain ∨ diagnostic.code ≠ .nested ∧ link = nested diagnostic.field diagnostic := by
  rw [chain_asNested] at member
  split at member
  · exact .inl member
  · rename_i other
    rcases List.mem_cons.mp member with rfl | later
    · exact .inr ⟨other, rfl⟩
    · exact .inl later

theorem element_mem_chain_asNested_iff {diagnostic cause : Diagnostic} {path : String} :
    element path cause ∈ diagnostic.asNested.chain ↔ element path cause ∈ diagnostic.chain := by
  rw [chain_asNested]
  split
  · exact Iff.rfl
  · simp

/-- The text of a diagnostic is that of its first link that is not a nested one. -/
theorem message_eq_of_chain (diagnostic : Diagnostic) :
    ∃ link, diagnostic.chain.find? (fun link => link.code ≠ .nested) = some link ∧
      diagnostic.message = link.message := by
  induction diagnostic with
  | nested path cause ih => exact ih
  | _ => exact ⟨_, rfl, rfl⟩

theorem code_asNested (diagnostic : Diagnostic) : diagnostic.asNested.code = .nested := by
  cases diagnostic with
  | _ => rfl

/-- What is a nested failure already stays as it is. -/
theorem asNested_asNested (diagnostic : Diagnostic) : diagnostic.asNested.asNested = diagnostic.asNested := by
  cases diagnostic with
  | _ => rfl

/-- A root cause wraps nothing. -/
theorem cause?_rootCause (diagnostic : Diagnostic) : diagnostic.rootCause.cause? = none := by
  induction diagnostic with
  | element field cause ih => exact ih
  | nested path cause ih => exact ih
  | _ => rfl

/-- The codes of wrappers are those of the diagnostics that wrap another. -/
theorem cause?_eq_none_iff {diagnostic : Diagnostic} :
    diagnostic.cause? = none ↔ diagnostic.code ≠ .nested ∧ diagnostic.code ≠ .element := by
  cases diagnostic with
  | _ => simp [cause?, code]

/-- What is put on a diagnostic. -/
inductive Wrapper where
  /-- makes it a nested failure, unless it is one -/
  | asNested
  /-- makes it a nested failure with the given path -/
  | nested (path : String)
  /-- makes it the failure of an element of the array at a field -/
  | element (field : String)
deriving DecidableEq

namespace Wrapper

/-- The diagnostic with the wrapper on it. -/
def put : Wrapper → Diagnostic → Diagnostic
  | asNested, diagnostic => diagnostic.asNested
  | nested path, diagnostic => .nested path diagnostic
  | element field, diagnostic => .element field diagnostic

/-- The field of an element wrapper. -/
def elementField? : Wrapper → Option String
  | element field => some field
  | _ => none

/-- The field of the last element wrapper that is put on. -/
def outermostField? (wrappers : List Wrapper) : Option String := (wrappers.filterMap elementField?).getLast?

theorem rootCause_put (wrapper : Wrapper) (diagnostic : Diagnostic) :
    (wrapper.put diagnostic).rootCause = diagnostic.rootCause := by
  cases wrapper with
  | asNested => exact diagnostic.rootCause_asNested
  | nested | element => rfl

/-- An element wrapper has a text of its own; the others keep that of what they wrap. -/
theorem message_put (wrapper : Wrapper) (diagnostic : Diagnostic) :
    (wrapper.put diagnostic).message =
      match wrapper.elementField? with
      | some field => (Diagnostic.element field diagnostic).message
      | none => diagnostic.message := by
  cases wrapper with
  | asNested => exact diagnostic.message_asNested
  | nested | element => rfl

theorem outermostField?_concat (wrappers : List Wrapper) (wrapper : Wrapper) :
    outermostField? (wrappers ++ [wrapper]) = wrapper.elementField?.or (outermostField? wrappers) := by
  unfold outermostField?
  rw [List.filterMap_append]
  cases wrapper with
  | element field => exact List.getLast?_concat
  | asNested | nested => exact congrArg List.getLast? (List.append_nil _)

end Wrapper

/-- The diagnostic with wrappers put on it, one after the other. -/
def wrapped (diagnostic : Diagnostic) (wrappers : List Wrapper) : Diagnostic :=
  wrappers.foldl (fun inner wrapper => wrapper.put inner) diagnostic

theorem wrapped_concat (diagnostic : Diagnostic) (wrappers : List Wrapper) (wrapper : Wrapper) :
    diagnostic.wrapped (wrappers ++ [wrapper]) = wrapper.put (diagnostic.wrapped wrappers) := by
  simp only [wrapped, List.foldl_append, List.foldl_cons, List.foldl_nil]

theorem rootCause_wrapped (diagnostic : Diagnostic) (wrappers : List Wrapper) :
    (diagnostic.wrapped wrappers).rootCause = diagnostic.rootCause := by
  induction wrappers using List.reverseRecOn with
  | nil => rfl
  | append_singleton wrappers wrapper ih => rw [wrapped_concat, wrapper.rootCause_put, ih]

/-- The text of an element failure is made of its field alone, whatever it wraps. -/
theorem message_wrapped (diagnostic : Diagnostic) (wrappers : List Wrapper) :
    (diagnostic.wrapped wrappers).message =
      match Wrapper.outermostField? wrappers with
      | some field => (element field diagnostic).message
      | none => diagnostic.message := by
  induction wrappers using List.reverseRecOn with
  | nil => rfl
  | append_singleton wrappers wrapper ih =>
      rw [wrapped_concat, wrapper.message_put, Wrapper.outermostField?_concat]
      cases wrapper.elementField? with
      | some field => rfl
      | none => exact ih

/--
As a nested failure a diagnostic keeps its field, its text and its root cause, and to do this twice is to do it once.
The root cause of a diagnostic is no wrapper, and is its own root cause. However a diagnostic is wrapped, its root cause
stays, and its text is that of the last element wrapper put on, or its own if there is none.
-/
theorem wrapping_laws (diagnostic : Diagnostic) :
    (diagnostic.asNested.field = diagnostic.field ∧ diagnostic.asNested.message = diagnostic.message ∧
        diagnostic.asNested.rootCause = diagnostic.rootCause ∧ diagnostic.asNested.code = .nested ∧
        diagnostic.asNested.asNested = diagnostic.asNested) ∧
      (diagnostic.rootCause.code ≠ .nested ∧ diagnostic.rootCause.code ≠ .element ∧
        diagnostic.rootCause.rootCause = diagnostic.rootCause) ∧
      ∀ wrappers : List Wrapper,
        (diagnostic.wrapped wrappers).rootCause = diagnostic.rootCause ∧
          (diagnostic.wrapped wrappers).message =
            match Wrapper.outermostField? wrappers with
            | some field => (element field diagnostic).message
            | none => diagnostic.message := by
  have leaf := diagnostic.cause?_rootCause
  obtain ⟨notNested, notElement⟩ := cause?_eq_none_iff.mp leaf
  refine ⟨?_, ⟨notNested, notElement, rootCause_of_leaf leaf⟩, ?_⟩
  · exact ⟨diagnostic.field_asNested, diagnostic.message_asNested, diagnostic.rootCause_asNested,
      diagnostic.code_asNested, diagnostic.asNested_asNested⟩
  · intro wrappers
    exact ⟨diagnostic.rootCause_wrapped wrappers, diagnostic.message_wrapped wrappers⟩

end Diagnostic

end RecordCheck
