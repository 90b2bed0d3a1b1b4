import RecordCheck.Json.Token

/-!
# Reading documents

The reader takes one token after the other. Its state says what may follow, and keeps the arrays and objects that
are still open, the innermost first. At most 127 of them may be open at a time.
-/

namespace RecordCheck

namespace Json

/-- An open array or object around a value that is being read; what it holds so far is last first. -/
inductive Frame where
  | array (items : List Json)
  | object (members : List (String × Json)) (name : String)

/-- What may follow, and what is open around it. -/
inductive Reader where
  /-- a value -/
  | value (frames : List Frame)
  /-- a value, or the end of the array that was just opened -/
  | arrayStart (frames : List Frame)
  /-- a comma, or the end of the array -/
  | arrayNext (items : List Json) (frames : List Frame)
  /-- a name, or the end of the object that was just opened -/
  | objectStart (frames : List Frame)
  /-- a name -/
  | nameNext (members : List (String × Json)) (frames : List Frame)
  /-- the colon after a name -/
  | colon (members : List (String × Json)) (name : String) (frames : List Frame)
  /-- a comma, or the end of the object -/
  | objectNext (members : List (String × Json)) (frames : List Frame)
  /-- nothing: the document is read -/
  | done (document : Json)

namespace Reader

/-- How many arrays and objects may be open at a time. -/
def depthLimit : Nat := 127

/-- Puts a value that was read into its place. -/
def place (document : Json) : List Frame → Reader
  | [] => done document
  | .array items :: frames => arrayNext (document :: items) frames
  | .object members name :: frames => objectNext ((name, document) :: members) frames

/-- Takes the first token of a value. -/
def beginValue (frames : List Frame) : Token → Option Reader
  | .null => some (place .null frames)
  | .bool b => some (place (.bool b) frames)
  | .number n => some (place (.number n) frames)
  | .string s => some (place (.string s) frames)
  | .beginArray => if frames.length < depthLimit then some (arrayStart frames) else none
  | .beginObject => if frames.length < depthLimit then some (objectStart frames) else none
  | _ => none

/-- Takes a token; `none` if it may not stand here. -/
def step? : Reader → Token → Option Reader
  | value frames, token => beginValue frames token
  | arrayStart frames, .endArray => some (place (.array []) frames)
  | arrayStart frames, token => beginValue (.array [] :: frames) token
  | arrayNext items frames, .comma => some (value (.array items :: frames))
  | arrayNext items frames, .endArray => some (place (.array items.reverse) frames)
  | objectStart frames, .endObject => some (place (.object []) frames)
  | objectStart frames, .string s => some (colon [] s frames)
  | nameNext members frames, .string s => some (colon members s frames)
  | colon members name frames, .colon => some (value (.object members name :: frames))
  | objectNext members frames, .comma => some (nameNext members frames)
  | objectNext members frames, .endObject => some (place (.object members.reverse) frames)
  | _, _ => none

/-- Takes tokens until the document is read; gives it with the tokens that were not taken. -/
def run? : Reader → List Token → Option (Json × List Token)
  | done document, rest => some (document, rest)
  | _, [] => none
  | reader, token :: rest =>
      match reader.step? token with
      | some next => run? next rest
      | none => none

end Reader

/-- The document at the start of a list of tokens, and the tokens after it. -/
def split? (tokens : List Token) : Option (Json × List Token) := (Reader.value []).run? tokens

/-- The document that a list of tokens makes up. -/
def ofTokens? (tokens : List Token) : Option Json :=
  match split? tokens with
  | some (document, []) => some document
  | _ => none

/-- The document that a text is, or `none` for a text that is not JSON. -/
def parse? (text : String) : Option Json := ofTokens? (Token.ofText text)

end Json

/-- Why a text does not give what was asked for: it is not a document, or its content does not fit. -/
inductive TextError (ε : Type) where
  | notJson
  | content (cause : ε)
deriving DecidableEq

end RecordCheck
