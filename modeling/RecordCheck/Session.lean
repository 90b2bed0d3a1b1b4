import RecordCheck.Component
import RecordCheck.Config.Variables

/-!
# Sessions

A session has one configuration for all components that are not given their own. It is installed, or read from the
environment when it is first asked for, and never changes after.
-/

namespace RecordCheck

variable {ν ρ : Type}

/-- The configuration of a session, once there is one. -/
structure Session where
  config? : Option Config
deriving DecidableEq

namespace Session

/-- A session that has no configuration yet. -/
def fresh : Session := ⟨none⟩

/-- The configuration of an environment; one that is not usable is reported, and the default takes its place. -/
def readEnvironment (lookup : String → Option String) : Traced Event Config :=
  match Config.ofVariables lookup with
  | .ok config => .pure config
  | .error error => ⟨.development, [.environmentIgnored error]⟩

/-- The configuration of the session, read from the environment the first time. -/
def config (session : Session) (lookup : String → Option String) : Traced Event (Config × Session) :=
  match session.config? with
  | some config => .pure (config, session)
  | none => (readEnvironment lookup).bind fun config => .pure (config, ⟨some config⟩)

/-- Installs a configuration, unless there is one. -/
def install (session : Session) (config : Config) : Except Config.Error Session :=
  match session.config? with
  | some _ => .error .alreadyInstalled
  | none => .ok ⟨some config⟩

/-- Guards a component under the configuration of the session. -/
def guard (session : Session) (lookup : String → Option String) (component : Component ν ρ) :
    Traced Event (Guarded ν ρ × Session) :=
  (session.config lookup).bind fun found => .pure (component.guard found.1, found.2)

end Session

end RecordCheck
