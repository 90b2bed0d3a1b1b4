import RecordCheck.Double.Layout
import RecordCheck.Value

/-!
# The text of a value

The text that a value has inside a message. The items of an array are joined by commas, and a null item leaves its
place empty.
-/

namespace RecordCheck.Value

/--
Numbers are written positionally from a millionth up to, and without, `10 ^ 21`; an exponent has a sign; the zeros
share a text, and of two equally near decimals the one farther from zero is written.
-/
def numberLayout : Layout where
  leastPoint := -5
  greatestPoint := 21
  pointZero := false
  exponentPlus := true
  signedZero := false
  tie := .awayFromZero

mutual

/-- The text of a value. -/
def text : Value → String
  | null => "null"
  | bool b => if b then "true" else "false"
  | number x => x.text numberLayout
  | string s => s
  | array items => ",".intercalate (itemTexts items)
  | object _ _ => "[object Object]"
  | function f => "function " ++ f.name ++ "()"

/-- The texts of the items of an array. -/
def itemTexts : List Value → List String
  | [] => []
  | item :: rest => (if item.isNull then "" else text item) :: itemTexts rest

end

end RecordCheck.Value
