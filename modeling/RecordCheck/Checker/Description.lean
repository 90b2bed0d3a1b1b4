import RecordCheck.Checker

/-!
# Describing checkers

The text that shows how a checker was made: its kind, its flag and its rule. Of all rules but the type tests it says
only that they are predicates.
-/

namespace RecordCheck

variable {ν : Type}

/-- The name of a kind as a constructor. -/
def Kind.constructorText : Kind → String
  | any => "Any"
  | array => "Array"
  | arrayOf => "ArrayOf"
  | bool => "Bool"
  | func => "Func"
  | instanceOf => "InstanceOf"
  | number => "Number"
  | object => "Object"
  | objectOf => "ObjectOf"
  | oneOf => "OneOf"
  | oneOfType => "OneOfType"
  | shape => "Shape"
  | string => "String"
  | custom => "Custom"

/-- The name of a type tag as a constructor. -/
def TypeTag.constructorText : TypeTag → String
  | boolean => "Boolean"
  | function => "Function"
  | number => "Number"
  | object => "Object"
  | string => "String"

/-- What a description says of a rule. -/
inductive Rule.Outline where
  | none
  | typed (tag : TypeTag)
  | predicate
deriving DecidableEq

/-- A rule that tests a type is told by its tag; all others are predicates, if they ask for anything. -/
def Rule.outline : Rule ν → Rule.Outline
  | .anything => .none
  | .typed tag => .typed tag
  | _ => .predicate

/-- The text of an outline. -/
def Rule.Outline.text : Rule.Outline → String
  | none => "None"
  | typed tag => "Some(PrimitiveType(" ++ tag.constructorText ++ "))"
  | predicate => "Some(Predicate(Predicate(..)))"

/-- The description of a checker. -/
def Checker.description (checker : Checker ν) : String :=
  "Checker \x7b kind: " ++ checker.kind.constructorText ++
    ", required: " ++ (if checker.isRequired then "true" else "false") ++
    ", rule: " ++ checker.rule.outline.text ++ " \x7d"

end RecordCheck
