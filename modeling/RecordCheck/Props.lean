import RecordCheck.Value

/-!
# Properties

The properties handed to a component: an ordered record of values. A property that was not supplied is absent,
which is not the same as holding null.
-/

namespace RecordCheck

/-- Named values in supply order. -/
abbrev Props := Record Value

namespace Props

/-- The properties as a plain object. -/
def toValue (props : Props) : Value := .object .object props.entries

end Props

end RecordCheck
