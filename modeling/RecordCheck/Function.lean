/-!
# Function references

A function value is a reference to a definition. Two definitions are two functions even if they share a name, so
each carries the serial number of its definition.
-/

namespace RecordCheck

/-- A reference to a named function. -/
structure Function where
  serial : Nat
  name : String
deriving DecidableEq

end RecordCheck
