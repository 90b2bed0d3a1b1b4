/-!
# Results with notes

A `Traced ν α` is a result together with the notes that were taken on the way to it, the oldest first. Steps that
can fail are run in order up to and including the first failure.
-/

namespace RecordCheck

variable {ν μ α β γ ε δ : Type}

/-- A result and the notes taken on the way to it. -/
structure Traced (ν α : Type) where
  result : α
  notes : List ν
deriving DecidableEq

namespace Traced

/-- A result without notes. -/
def pure (a : α) : Traced ν α := ⟨a, []⟩

/-- A step and another one that sees its result; the notes follow each other. -/
def bind (step : Traced ν α) (next : α → Traced ν β) : Traced ν β :=
  let after := next step.result
  ⟨after.result, step.notes ++ after.notes⟩

/-- Steps in sequence. -/
instance : Monad (Traced ν) where
  pure := pure
  bind := bind

/-- How steps are grouped does not count. -/
instance : LawfulMonad (Traced ν) := LawfulMonad.mk' (Traced ν)
  (by intro α step; cases step; simp [Functor.map, bind, pure])
  (by intro α β a next; simp [Bind.bind, Pure.pure, bind, pure])
  (by intro α β γ step next last; simp [Bind.bind, bind, List.append_assoc])

/-- Takes a note. -/
def note (n : ν) : Traced ν Unit := ⟨(), [n]⟩

/-- Applies a function to every note. -/
def mapNotes (f : ν → μ) (step : Traced ν α) : Traced μ α := ⟨step.result, step.notes.map f⟩

/-- A step that succeeds. -/
def ok : Traced ν (Except ε Unit) := ⟨.ok (), []⟩

/-- A step that fails. -/
def fail (error : ε) : Traced ν (Except ε Unit) := ⟨.error error, []⟩

/-- Runs the second step only if the first one succeeds. -/
def andThen (first : Traced ν (Except ε Unit)) (second : Unit → Traced ν (Except ε Unit)) :
    Traced ν (Except ε Unit) :=
  match first.result with
  | .ok () =>
      let last := second ()
      ⟨last.result, first.notes ++ last.notes⟩
  | .error _ => first

/-- Applies a function to the failure. -/
def mapError (f : ε → δ) (step : Traced ν (Except ε Unit)) : Traced ν (Except δ Unit) :=
  ⟨step.result.mapError f, step.notes⟩

/-- Runs a step for each item in order, up to and including the first that fails. -/
def firstFailure (step : α → Traced ν (Except ε Unit)) : List α → Traced ν (Except ε Unit)
  | [] => ok
  | item :: rest => (step item).andThen fun _ => firstFailure step rest

/-- All steps succeed if and only if the run does. -/
theorem firstFailure_ok_iff (step : α → Traced ν (Except ε Unit)) (items : List α) :
    (firstFailure step items).result = .ok () ↔ ∀ item ∈ items, (step item).result = .ok () := by
  induction items with
  | nil => simp [firstFailure, ok]
  | cons item rest ih =>
      simp only [firstFailure, andThen, List.forall_mem_cons]
      cases outcome : (step item).result with
      | ok => simp [ih]
      | error => simp [outcome]

end Traced

end RecordCheck
