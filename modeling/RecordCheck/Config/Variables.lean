import RecordCheck.Config.Error

/-!
# Configuration from variables

Two variables, such as those of the environment, select a configuration. A variable that is not set leaves the
default; a policy that cannot be read is an error whatever the mode.
-/

namespace RecordCheck

/-- The policy that a text names. -/
def Policy.ofText (text : String) : Except Config.Error Policy :=
  match Policy.parse? text with
  | some policy => .ok policy
  | none => .error (.invalidPolicy text)

namespace Config

/-- The variable that selects the mode. -/
def modeVariable : String := "PROP_TYPES_ENV"

/-- The variable that selects the policy. -/
def policyVariable : String := "PROP_TYPES_UNKNOWN_PROPS"

/-- The configuration that variables select. -/
def ofVariables (lookup : String → Option String) : Except Error Config :=
  let mode := ((lookup modeVariable).map Mode.ofVariable).getD .development
  match lookup policyVariable with
  | none => .ok ⟨mode, .allow⟩
  | some text =>
      match Policy.ofText text with
      | .ok policy => .ok ⟨mode, policy⟩
      | .error error => .error error

end Config

end RecordCheck
