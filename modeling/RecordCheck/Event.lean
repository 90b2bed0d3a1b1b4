import RecordCheck.Config.Error
import RecordCheck.Diagnostic

/-!
# Events

What the library reports while it works: a level, a message and named fields of text. An entry of a log is an event
of the library or a note of its caller.
-/

namespace RecordCheck

/-- The levels of events. -/
inductive Level where
  | trace
  | debug
  | warn
deriving DecidableEq

/-- The name of the level. -/
def Level.text : Level → String
  | trace => "TRACE"
  | debug => "DEBUG"
  | warn => "WARN"

/-- What is reported. -/
inductive Event where
  /-- a field of a schema failed -/
  | fieldFailed (field path : String) (code : Diagnostic.Code)
  /-- a component is rendered without checks -/
  | checksSkipped (component : String)
  /-- a property was supplied that the component does not declare -/
  | undeclaredProperty (component property : String)
  /-- the environment holds no usable configuration -/
  | environmentIgnored (error : Config.Error)
deriving DecidableEq

namespace Event

/-- The level at which an event is reported. -/
def level : Event → Level
  | fieldFailed .. => .debug
  | checksSkipped _ => .trace
  | undeclaredProperty .. => .warn
  | environmentIgnored _ => .warn

/-- What an event says without its fields. -/
def message : Event → String
  | fieldFailed .. => "prop validation failed"
  | checksSkipped _ => "production mode, skipping prop validation"
  | undeclaredProperty .. => "prop supplied but not declared in prop types"
  | environmentIgnored _ => "ignoring prop-types environment configuration"

/-- The named fields of an event. -/
def fields : Event → List (String × String)
  | fieldFailed field path code => [("field", field), ("path", path), ("code", code.text)]
  | checksSkipped component => [("component", component)]
  | undeclaredProperty component property => [("component", component), ("prop", property)]
  | environmentIgnored error => [("error", error.message)]

end Event

/-- An entry of a log. -/
inductive Entry (ν : Type) where
  | note (n : ν)
  | event (e : Event)
deriving DecidableEq

end RecordCheck
