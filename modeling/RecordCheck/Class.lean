/-!
# Classes

A class is a named constructor with a parent; the class `Object` stands at the root. Two definitions are two
classes even if they share name and parent, so each carries the serial number of its definition. Serial numbers
are handed out by a `Class.Registry`, which starts with the built-in classes.
-/

namespace RecordCheck

/-- A class: the root, or the definition of a name under a parent. -/
inductive Class where
  | object
  | derived (serial : Nat) (name : String) (parent : Class)
deriving DecidableEq

namespace Class

/-- By default a class is the root. -/
instance : Inhabited Class := ⟨object⟩

/-- The built-in class of arrays. -/
def array : Class := derived 0 "Array" object

/-- The built-in class of functions. -/
def function : Class := derived 1 "Function" object

/-- The name of the class; classes of one name need not be the same. -/
def name : Class → String
  | object => "Object"
  | derived _ name _ => name

/-- The parent; only the root has none. -/
def parent? : Class → Option Class
  | object => none
  | derived _ _ parent => some parent

/-- Whether the first class is the second or descends from it. -/
def isSubclassOf (cls ancestor : Class) : Bool :=
  cls = ancestor ||
    match cls with
    | object => false
    | derived _ _ parent => parent.isSubclassOf ancestor

/-- The classes defined so far, in the order of their definition. -/
structure Registry where
  classes : List Class

namespace Registry

/-- The built-in classes. -/
def initial : Registry := ⟨[array, function]⟩

/-- Defines a class under a parent. -/
def define (registry : Registry) (name : String) (parent : Class) : Class × Registry :=
  let cls := derived registry.classes.length name parent
  (cls, ⟨registry.classes ++ [cls]⟩)

end Registry

end Class

end RecordCheck
