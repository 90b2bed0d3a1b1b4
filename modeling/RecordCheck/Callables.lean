import RecordCheck.Value

/-!
# Calling functions

What functions do is kept apart from the values that refer to them: a table gives the behaviour of each definition.
-/

namespace RecordCheck

/-- The functions defined so far, each with what it returns for its arguments. -/
structure Callables where
  definitions : List (Function × (List Value → Value))

namespace Callables

/-- A table that defines nothing. -/
def empty : Callables := ⟨[]⟩

/-- Defines a function. -/
def define (table : Callables) (name : String) (body : List Value → Value) : Function × Callables :=
  let function : Function := ⟨table.definitions.length, name⟩
  (function, ⟨table.definitions ++ [(function, body)]⟩)

/-- Calls a function with arguments; `none` if the table does not define it. -/
def call? (table : Callables) (function : Function) (arguments : List Value) : Option Value :=
  (table.definitions.lookup function).map fun body => body arguments

end Callables

end RecordCheck
