import RecordCheck.Checker.Check
import RecordCheck.Checker.Description
import RecordCheck.Event
import RecordCheck.Props

/-!
# Schemas

A schema declares properties in order. Each is checked by a checker, which sees the property alone, or by a validator
that sees all properties. Validation runs the fields in order up to and including the first that fails, and reports
that failure.
-/

namespace RecordCheck

variable {ν : Type}

/-- How a declared property is checked. -/
inductive Schema.Field (ν : Type) where
  /-- by a checker that sees the property alone -/
  | single (checker : Checker ν)
  /-- by a validator that sees all properties -/
  | whole (validator : Props → String → Traced ν Verdict)

/-- Declared properties in the order of their first declaration. -/
abbrev Schema (ν : Type) := Record (Schema.Field ν)

/-- Why properties are refused. -/
inductive Refusal where
  /-- a field failed -/
  | invalid (diagnostic : Diagnostic)
  /-- a property was supplied that the component does not declare -/
  | undeclared (component property : String)
deriving DecidableEq

namespace Refusal

/-- The text of the refusal. -/
def message : Refusal → String
  | invalid diagnostic => diagnostic.message
  | undeclared component property =>
      "`" ++ property ++ "` was supplied to `" ++ component ++ "` but is not declared in its prop types"

/-- The diagnostic of the field that failed, if that is why properties are refused. -/
def diagnostic? : Refusal → Option Diagnostic
  | invalid diagnostic => some diagnostic
  | undeclared .. => none

/-- The code of that diagnostic. -/
def code? (refusal : Refusal) : Option Diagnostic.Code := refusal.diagnostic?.map Diagnostic.code

end Refusal

namespace Schema

/-- Checks the property of a field. -/
def Field.run (field : Field ν) (props : Props) (name : String) : Traced ν Verdict :=
  match field with
  | .single checker => checker.validate (props.get? name) name
  | .whole validator => validator props name

/-- The description of a field. -/
def Field.description : Field ν → String
  | .single checker => "Checker(" ++ checker.description ++ ")"
  | .whole _ => "Inline(InlineValidator(..))"

/-- The schema that declares names with checkers. -/
def ofCheckers (pairs : List (String × Checker ν)) : Schema ν :=
  Record.ofList (pairs.map fun pair => (pair.1, Field.single pair.2))

/-- Runs a field of the schema, and reports its failure. -/
def runField (props : Props) (entry : String × Field ν) : Traced (Entry ν) (Except Refusal Unit) :=
  let outcome := entry.2.run props entry.1
  match outcome.result with
  | .ok () => ⟨.ok (), outcome.notes.map .note⟩
  | .error diagnostic =>
      ⟨.error (.invalid diagnostic),
        outcome.notes.map .note ++ [.event (.fieldFailed entry.1 diagnostic.field diagnostic.code)]⟩

/-- Validates properties by a schema. -/
def validate (schema : Schema ν) (props : Props) : Traced (Entry ν) (Except Refusal Unit) :=
  Traced.firstFailure (runField props) schema.entries

/-- The supplied properties that the schema does not declare, in supply order. -/
def undeclared (schema : Schema ν) (props : Props) : List String :=
  props.keys.filter fun name => !schema.contains name

end Schema

end RecordCheck
