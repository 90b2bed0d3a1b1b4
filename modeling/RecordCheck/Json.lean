import RecordCheck.Double

/-!
# JSON documents

A `Json` is the tree of a document as it is written: the members of an object are all there, in order, repeated
names included.
-/

namespace RecordCheck

/-- A number in a document: an integer that fits 64 bits, or a double. -/
inductive Json.Number where
  | integer (n : Int)
  | double (x : Double)
deriving DecidableEq

/-- The tree of a document. -/
inductive Json where
  | null
  | bool (b : Bool)
  | number (n : Json.Number)
  | string (s : String)
  | array (items : List Json)
  | object (members : List (String × Json))

/-- By default a document is null. -/
instance : Inhabited Json := ⟨.null⟩

end RecordCheck
