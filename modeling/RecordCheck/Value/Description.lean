import RecordCheck.Text.Quoted
import RecordCheck.Value

/-!
# Describing classes and functions

The texts that show which class or function a reference means, by its quoted name.
-/

namespace RecordCheck

/-- The description of a class. -/
def Class.description (cls : Class) : String := "Class(" ++ Text.quoted cls.name ++ ")"

/-- The description of a function. -/
def Function.description (function : Function) : String :=
  "Function \x7b name: " ++ Text.quoted function.name ++ " \x7d"

end RecordCheck
