import RecordCheck.Class
import RecordCheck.Double.Rounding
import RecordCheck.Function
import RecordCheck.Record

/-!
# Dynamically typed values

`Value` is the tree of values that properties hold. Null is a value like any other and not the absence of one.
Each value has a type name, in which null, arrays and objects are all `object`, and all but null have the name of
the class that constructed them. `Value.strictEq` compares numbers numerically, functions by reference, and arrays
and objects by their parts; the order of an object's fields does not count.
-/

namespace RecordCheck

/-- A dynamically typed value; the fields of an object are in the order of their insertion. -/
inductive Value where
  | null
  | bool (b : Bool)
  | number (x : Double)
  | string (s : String)
  | array (items : List Value)
  | object (cls : Class) (fields : List (String × Value))
  | function (f : Function)

/-- By default a value is null. -/
instance : Inhabited Value := ⟨.null⟩

namespace Value

/-- The object of a class that collects the given pairs. -/
def instanceOf (cls : Class) (pairs : List (String × Value)) : Value := object cls (collect pairs)

/-- The plain object that collects the given pairs. -/
def plain (pairs : List (String × Value)) : Value := instanceOf Class.object pairs

/-- The number nearest to an integer. -/
def ofInt (n : Int) : Value := number (Double.ofInt n)

/-- The name of the value's type. -/
def typeName : Value → String
  | null | array _ | object _ _ => "object"
  | bool _ => "boolean"
  | number _ => "number"
  | string _ => "string"
  | function _ => "function"

/-- The name of the class that constructed the value; null has none. -/
def constructorName? : Value → Option String
  | null => none
  | bool _ => some "Boolean"
  | number _ => some "Number"
  | string _ => some "String"
  | array _ => some Class.array.name
  | object cls _ => some cls.name
  | function _ => some Class.function.name

/-- The class of an array, an object or a function. -/
def class? : Value → Option Class
  | array _ => some Class.array
  | object cls _ => some cls
  | function _ => some Class.function
  | _ => none

/-- Whether the value's class is the given one or descends from it. -/
def isInstanceOf (value : Value) (cls : Class) : Bool :=
  value.class?.any (·.isSubclassOf cls)

/-- Whether the value is null. -/
def isNull : Value → Bool
  | null => true
  | _ => false

mutual

/-- Strict equality of two values. -/
def strictEq : Value → Value → Bool
  | null, null => true
  | bool a, bool b => a == b
  | number x, number y => x.numEq y
  | string s, string t => s == t
  | array xs, array ys => itemsEq xs ys
  | object c xs, object d ys => decide (c = d) && xs.length == ys.length && fieldsEq xs ys
  | function f, function g => decide (f = g)
  | _, _ => false

/-- Whether two lists have strictly equal items in the same places. -/
def itemsEq : List Value → List Value → Bool
  | [], [] => true
  | x :: xs, y :: ys => strictEq x y && itemsEq xs ys
  | _, _ => false

/-- Whether every field of the first list has a strictly equal field of the same name in the second. -/
def fieldsEq : List (String × Value) → List (String × Value) → Bool
  | [], _ => true
  | (name, x) :: xs, ys =>
      (match ys.lookup name with
        | some y => strictEq x y
        | none => false) && fieldsEq xs ys

end

end Value

end RecordCheck
