import RecordCheck.Schema

/-!
# Components

A component renders properties and declares them in a schema. A guarded component checks properties before each
render: first by the schema, then by the policy on undeclared properties. In production it renders at once.
-/

namespace RecordCheck

variable {ν ρ : Type}

/-- A named render function with the properties that it declares. -/
structure Component (ν ρ : Type) where
  name : String
  schema : Schema ν
  render : Props → Traced ν ρ

/-- A component whose properties are checked before each render. -/
structure Guarded (ν ρ : Type) where
  config : Config
  component : Component ν ρ

namespace Component

/-- The component guarded under a configuration. -/
def guard (component : Component ν ρ) (config : Config) : Guarded ν ρ := ⟨config, component⟩

/-- Applies a policy to the properties that the component does not declare. -/
def applyPolicy (component : Component ν ρ) (policy : Policy) (props : Props) :
    Traced (Entry ν) (Except Refusal Unit) :=
  let undeclared := component.schema.undeclared props
  match policy with
  | .allow => .ok
  | .warn => ⟨.ok (), undeclared.map fun name => .event (.undeclaredProperty component.name name)⟩
  | .deny =>
      match undeclared with
      | [] => .ok
      | name :: _ => .fail (.undeclared component.name name)

end Component

namespace Guarded

/-- Renders properties once they have passed the checks. -/
def render (guarded : Guarded ν ρ) (props : Props) : Traced (Entry ν) (Except Refusal ρ) :=
  let inner : Traced (Entry ν) (Except Refusal ρ) :=
    ((guarded.component.render props).mapNotes .note).bind fun output => .pure (.ok output)
  if guarded.config.isProduction then
    (Traced.note (.event (.checksSkipped guarded.component.name))).bind fun _ => inner
  else
    ((guarded.component.schema.validate props).andThen
      fun _ => guarded.component.applyPolicy guarded.config.policy props).bind fun outcome =>
        match outcome with
        | .ok () => inner
        | .error refusal => .pure (.error refusal)

end Guarded

end RecordCheck
