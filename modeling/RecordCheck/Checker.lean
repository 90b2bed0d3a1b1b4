import RecordCheck.Diagnostic
import RecordCheck.Traced
import RecordCheck.Value

/-!
# Checkers

A `Checker` is a rule for present values with a flag that says whether a value has to be present. Its kind is a
label that appears in messages only; what is accepted depends on the rule. Rules nest: arrays, objects, unions and
shapes hold checkers. A custom rule is a predicate of the caller, which may take notes while it runs.
-/

namespace RecordCheck

/-- The label of a checker. -/
inductive Kind where
  | any
  | array
  | arrayOf
  | bool
  | func
  | instanceOf
  | number
  | object
  | objectOf
  | oneOf
  | oneOfType
  | shape
  | string
  | custom
deriving DecidableEq

/-- The name of a kind in messages. -/
def Kind.text : Kind → String
  | any => "any"
  | array => "array"
  | arrayOf => "arrayOf"
  | bool => "bool"
  | func => "function"
  | instanceOf => "instanceOf"
  | number => "number"
  | object => "object"
  | objectOf => "objectOf"
  | oneOf => "oneOf"
  | oneOfType => "oneOfType"
  | shape => "shape"
  | string => "string"
  | custom => "custom"

/-- The type names that a rule can ask for. -/
inductive TypeTag where
  | boolean
  | function
  | number
  | object
  | string
deriving DecidableEq

/-- The type name in messages, which is the one that values give. -/
def TypeTag.text : TypeTag → String
  | boolean => "boolean"
  | function => "function"
  | number => "number"
  | object => "object"
  | string => "string"

/-- What a check comes to: acceptance, or why the value is rejected. -/
abbrev Verdict := Except Diagnostic Unit

/-- A check of a value at a field by the caller, which may take notes. -/
abbrev Predicate (ν : Type) := Value → String → Traced ν Verdict

mutual

/-- A rule with a label and a flag for required presence. -/
inductive Checker (ν : Type) where
  | mk (kind : Kind) (isRequired : Bool) (rule : Rule ν)

/-- What a present value has to satisfy. -/
inductive Rule (ν : Type) where
  /-- nothing -/
  | anything
  /-- the value has the type -/
  | typed (tag : TypeTag)
  /-- the value is an array -/
  | array
  /-- the value is an array of accepted elements -/
  | arrayOf (element : Checker ν)
  /-- the value is an object of accepted fields -/
  | objectOf (element : Checker ν)
  /-- the value is strictly equal to one of those given -/
  | oneOf (allowed : List Value)
  /-- one of the checkers accepts the value -/
  | oneOfType (alternatives : List (Checker ν))
  /-- the value is an object whose declared fields are accepted -/
  | shape (fields : List (String × Checker ν))
  /-- the value is an instance of the class -/
  | instanceOf (cls : Class)
  /-- the predicate accepts the value -/
  | custom (predicate : Predicate ν)

end

namespace Checker

variable {ν : Type}

/-- The label of a checker; it stands in messages and decides nothing. -/
def kind : Checker ν → Kind
  | mk kind _ _ => kind

/-- Whether an absent value is refused. -/
def isRequired : Checker ν → Bool
  | mk _ isRequired _ => isRequired

/-- What a present value has to satisfy. -/
def rule : Checker ν → Rule ν
  | mk _ _ rule => rule

/-- The name of the checker in messages. -/
def name (checker : Checker ν) : String := checker.kind.text

/-- An optional checker. -/
def new (kind : Kind) (rule : Rule ν) : Checker ν := mk kind false rule

/-- By default everything is accepted. -/
instance : Inhabited (Checker ν) := ⟨new .any .anything⟩

/-- The same checker with the value required to be present. -/
def required : Checker ν → Checker ν
  | mk kind _ rule => mk kind true rule

/-- Accepts every value. -/
def any : Checker ν := new .any .anything

/-- Accepts arrays of any elements. -/
def array : Checker ν := new .array .array

/-- Accepts booleans. -/
def bool : Checker ν := new .bool (.typed .boolean)

/-- Accepts functions. -/
def func : Checker ν := new .func (.typed .function)

/-- Accepts numbers, NaN among them. -/
def number : Checker ν := new .number (.typed .number)

/-- Accepts what has the type name of objects: also arrays and null. -/
def object : Checker ν := new .object (.typed .object)

/-- Accepts texts. -/
def string : Checker ν := new .string (.typed .string)

/-- Accepts arrays whose elements are all accepted. -/
def arrayOf (element : Checker ν) : Checker ν := new .arrayOf (.arrayOf element)

/-- Accepts objects whose fields are all accepted. -/
def objectOf (element : Checker ν) : Checker ν := new .objectOf (.objectOf element)

/-- Accepts what is strictly equal to one of the given values. -/
def oneOf (allowed : List Value) : Checker ν := new .oneOf (.oneOf allowed)

/-- Accepts what one of the checkers accepts. -/
def oneOfType (alternatives : List (Checker ν)) : Checker ν := new .oneOfType (.oneOfType alternatives)

/-- A name that is declared again keeps its place and takes the later checker. -/
def shape (fields : List (String × Checker ν)) : Checker ν := new .shape (.shape (collect fields))

/-- Accepts instances of a class and of its descendants. -/
def instanceOf (cls : Class) : Checker ν := new .instanceOf (.instanceOf cls)

/-- Accepts what a predicate of the caller accepts. -/
def custom (predicate : Predicate ν) : Checker ν := new .custom (.custom predicate)

end Checker

end RecordCheck
