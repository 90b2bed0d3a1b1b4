import RecordCheck.Json.Reader
import RecordCheck.Props

/-!
# Values from documents

A document becomes the value of the same tree, with every number as a double and every object plain. Properties
are read from an object.
-/

namespace RecordCheck

mutual

/-- The value of a document. -/
def Value.ofJson : Json → Value
  | .null => .null
  | .bool b => .bool b
  | .number n => .number n.toDouble
  | .string s => .string s
  | .array items => .array (Value.ofItems items)
  | .object members => .plain (Value.ofMembers members)

/-- The values of the items of an array. -/
def Value.ofItems : List Json → List Value
  | [] => []
  | item :: rest => Value.ofJson item :: Value.ofItems rest

/-- The values of the members of an object, under their names. -/
def Value.ofMembers : List (String × Json) → List (String × Value)
  | [] => []
  | (name, item) :: rest => (name, Value.ofJson item) :: Value.ofMembers rest

end

theorem Value.ofItems_eq_map (items : List Json) : Value.ofItems items = items.map Value.ofJson := by
  induction items with
  | nil => rfl
  | cons item rest ih => rw [Value.ofItems, ih, List.map_cons]

theorem Value.ofMembers_eq_map (members : List (String × Json)) :
    Value.ofMembers members = members.map fun member => (member.1, Value.ofJson member.2) := by
  induction members with
  | nil => rfl
  | cons member rest ih => rw [Value.ofMembers, ih, List.map_cons]

namespace Props

/-- Why a document does not hold properties. -/
inductive Error where
  /-- it is not an object, but a value with the given type name -/
  | notAnObject (actual : String)
deriving DecidableEq

/-- The text of the error. -/
def Error.message : Error → String
  | notAnObject actual => "props must be an object, got `" ++ actual ++ "`"

/-- The properties that a document holds. -/
def ofJson : Json → Except Error Props
  | .object members => .ok (Record.ofList (Value.ofMembers members))
  | other => .error (.notAnObject (Value.ofJson other).typeName)

/-- The properties that a text holds. What the document holds is looked at before what follows the document. -/
def ofText (text : String) : Except (TextError Error) Props :=
  match Json.split? (Json.Token.ofText text) with
  | none => .error .notJson
  | some (document, rest) =>
      match ofJson document with
      | .error cause => .error (.content cause)
      | .ok props => if rest.isEmpty then .ok props else .error .notJson

end Props

/-- The value that a text holds, or `none` for a text that is not JSON. -/
def Value.ofText? (text : String) : Option Value := (Json.parse? text).map Value.ofJson

end RecordCheck
