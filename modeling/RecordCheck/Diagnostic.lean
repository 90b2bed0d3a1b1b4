import RecordCheck.Text.Quoted

/-!
# Diagnostics

A `Diagnostic` says why a value was rejected and at which field. A failure inside a container is wrapped: an
`element` names the array whose element failed, and a `nested` failure carries the path of what it wraps. Following
the wrappers inwards gives the chain of a diagnostic, which ends in its root cause.
-/

namespace RecordCheck

/-- The codes of diagnostics. -/
inductive Diagnostic.Code where
  | missing
  | typeMismatch
  | notAnArray
  | element
  | nested
  | notAllowed
  | noMatch
  | notAnInstance
  | custom
deriving DecidableEq

/-- Why a value was rejected, and at which field. -/
inductive Diagnostic where
  /-- a required field was not supplied -/
  | missing (field : String)
  /-- the type of the value is not the expected one -/
  | typeMismatch (field expected actual : String)
  /-- the value is not an array -/
  | notAnArray (field actual : String)
  /-- an element of the array was rejected -/
  | element (field : String) (cause : Diagnostic)
  /-- a field inside the value was rejected, at the given path -/
  | nested (path : String) (cause : Diagnostic)
  /-- the value is none of the allowed ones -/
  | notAllowed (field : String) (allowed : List String) (actual : String)
  /-- none of the alternatives accepts the value -/
  | noMatch (field : String) (allowed : List String) (actual : String)
  /-- the value is not an instance of the class -/
  | notAnInstance (field expected actual : String)
  /-- a predicate of the caller rejected the value -/
  | custom (field message : String)
deriving DecidableEq

namespace Diagnostic

/-- By default something without a name is missing. -/
instance : Inhabited Diagnostic := ⟨missing ""⟩

/-- The code as it is reported. -/
def Code.text : Code → String
  | .missing => "PROPS_REQUIRED"
  | .typeMismatch => "PROPS_TYPE_MISMATCH"
  | .notAnArray => "PROPS_NOT_AN_ARRAY"
  | .element => "PROPS_ELEMENT_INVALID"
  | .nested => "PROPS_NESTED_INVALID"
  | .notAllowed => "PROPS_NOT_ALLOWED_VALUE"
  | .noMatch => "PROPS_NO_MATCHING_TYPE"
  | .notAnInstance => "PROPS_NOT_AN_INSTANCE"
  | .custom => "PROPS_CUSTOM"

/-- The code of the outermost failure. -/
def code : Diagnostic → Code
  | missing _ => .missing
  | typeMismatch .. => .typeMismatch
  | notAnArray .. => .notAnArray
  | element .. => .element
  | nested .. => .nested
  | notAllowed .. => .notAllowed
  | noMatch .. => .noMatch
  | notAnInstance .. => .notAnInstance
  | custom .. => .custom

/-- The field, or the path, that the diagnostic names. -/
def field : Diagnostic → String
  | missing field => field
  | typeMismatch field _ _ => field
  | notAnArray field _ => field
  | element field _ => field
  | nested path _ => path
  | notAllowed field _ _ => field
  | noMatch field _ _ => field
  | notAnInstance field _ _ => field
  | custom field _ => field

/-- Items in backquotes as an enumeration: one, one or the other, or a list with a comma before the last. -/
def enumerate (items : List String) : String :=
  match items.map Text.backquoted with
  | [] => ""
  | [only] => only
  | [first, second] => first ++ " or " ++ second
  | first :: rest => ", ".intercalate (first :: rest.dropLast) ++ ", or " ++ rest.getLastD first

/-- The text of a diagnostic; a nested one has the text of what it wraps. -/
def message : Diagnostic → String
  | missing field => field ++ " is required"
  | typeMismatch field expected actual =>
      "Expected " ++ field ++ " to be of type `" ++ expected ++ "`, but got `" ++ actual ++ "`"
  | notAnArray field actual => "Expected " ++ field ++ " to be an `Array`, but got `" ++ actual ++ "`"
  | element field _ => field ++ " does not consist of the correct type"
  | nested _ cause => cause.message
  | notAllowed field allowed actual =>
      "Expected " ++ field ++ " to be " ++ enumerate allowed ++ ", but got `" ++ actual ++ "`"
  | noMatch field allowed actual =>
      "Expected " ++ field ++ " to be " ++ enumerate allowed ++ ", but got `" ++ actual ++ "`"
  | notAnInstance field expected actual =>
      "Expected " ++ field ++ " to be an instance of `" ++ expected ++ "`, but got `" ++ actual ++ "`"
  | custom _ message => message

/-- The diagnostic as a failure inside a value; one that already is stays as it is. -/
def asNested : Diagnostic → Diagnostic
  | nested path cause => nested path cause
  | other => nested other.field other

/-- What a wrapper wraps. -/
def cause? : Diagnostic → Option Diagnostic
  | element _ cause | nested _ cause => some cause
  | _ => none

/-- The failure that all wrappers lead to. -/
def rootCause : Diagnostic → Diagnostic
  | element _ cause | nested _ cause => cause.rootCause
  | leaf => leaf

/-- The diagnostic, what it wraps, and so on down to the root cause. -/
def chain : Diagnostic → List Diagnostic
  | element field cause => element field cause :: cause.chain
  | nested path cause => nested path cause :: cause.chain
  | leaf => [leaf]

end Diagnostic

end RecordCheck
