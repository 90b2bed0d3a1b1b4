import RecordCheck.Config
import RecordCheck.Double.Layout
import RecordCheck.Json.Reader
import RecordCheck.Text.Quoted

/-!
# Configuration errors

What can be wrong with a configuration: the text of a policy, the document it is read from, or the time of its
installation. A document of the wrong content is described by the first thing in it that does not fit.
-/

namespace RecordCheck.Config

/-- The first thing in a document that does not fit a configuration. -/
inductive DocumentError where
  | unknownMember (name : String)
  | repeatedMember (name : String)
  | unknownVariant (name : String) (expected : List String)
  | wrongType (actual expected : String)
deriving DecidableEq

/-- The members that a document may have. -/
inductive Setting where
  | mode
  | policy
deriving DecidableEq

namespace Setting

/-- The name of the member. -/
def text : Setting → String
  | mode => "mode"
  | policy => "unknown_props"

/-- The settings in the order of an array. -/
def all : List Setting := [mode, policy]

/-- The names of the values that the setting can have. -/
def variants : Setting → List String
  | mode => Mode.all.map Mode.text
  | policy => Policy.all.map Policy.text

end Setting

/-- The names that could have stood in a place, in backquotes. -/
def choices (names : List String) : String :=
  match names.map Text.backquoted with
  | [only] => only
  | [first, second] => first ++ " or " ++ second
  | several => "one of " ++ ", ".intercalate several

namespace DocumentError

/--
Numbers have a point, except in exponent notation; that begins at `10 ^ 16` and below a hundred thousandth, and its
exponent always has a sign. Of two equally near decimals the even one is written.
-/
def numberLayout : Layout where
  leastPoint := -4
  greatestPoint := 16
  pointZero := true
  exponentPlus := true
  signedZero := true
  tie := .toEven

/-- How a message calls the value that a token begins. -/
def describe? : Json.Token → Option String
  | .null => some "null"
  | .bool b => some ("boolean `" ++ (if b then "true" else "false") ++ "`")
  | .number (.integer n) => some ("integer `" ++ n.repr ++ "`")
  | .number (.double x) => some ("floating point `" ++ x.text numberLayout ++ "`")
  | .string s => some ("string " ++ Text.quoted s)
  | .beginArray => some "sequence"
  | .beginObject => some "map"
  | _ => none

/-- The text of the fault, with the names that could have stood in its place. -/
def message : DocumentError → String
  | unknownMember name =>
      "unknown field `" ++ name ++ "`, expected " ++ choices (Setting.all.map Setting.text)
  | repeatedMember name => "duplicate field `" ++ name ++ "`"
  | unknownVariant name expected => "unknown variant `" ++ name ++ "`, expected " ++ choices expected
  | wrongType actual expected => "invalid type: " ++ actual ++ ", expected " ++ expected

end DocumentError

/-- What is wrong with a configuration. -/
inductive Error where
  /-- a text that names no policy -/
  | invalidPolicy (text : String)
  /-- a text that holds no configuration -/
  | malformed (cause : TextError DocumentError)
  /-- there is a configuration already -/
  | alreadyInstalled
deriving DecidableEq

/-- The text of the error; a policy that cannot be read stands in it as it was given. -/
def Error.message : Error → String
  | invalidPolicy text =>
      "unknown undeclared-prop policy `" ++ text ++ "` (expected allow, warn or deny)"
  | malformed .notJson => "malformed configuration: not a document"
  | malformed (.content cause) => "malformed configuration: " ++ cause.message
  | alreadyInstalled => "configuration already installed"

end RecordCheck.Config
