import RecordCheck.Config.Error

/-!
# Configuration from a document

A configuration is an object with the members `mode` and `unknown_props`, or an array of these two in order; what is
left out has its default. A setting is the name of a variant, or an object whose only member is that name with
null. The reader takes one token after the other, so the first thing that does not fit is the error, even where the
rest of the text is no document at all.
-/

namespace RecordCheck.Config

/-- The settings read so far. -/
structure Draft where
  mode? : Option Mode
  policy? : Option Policy
deriving DecidableEq

namespace Draft

/-- Nothing has been read. -/
def empty : Draft := ⟨none, none⟩

/-- Whether a setting has been read. -/
def has (draft : Draft) : Setting → Bool
  | .mode => draft.mode?.isSome
  | .policy => draft.policy?.isSome

/-- Fills a setting with the variant of the given name. -/
def fill? (draft : Draft) (setting : Setting) (name : String) : Option Draft :=
  match setting with
  | .mode => (Mode.all.find? fun mode => mode.text = name).map fun mode => { draft with mode? := some mode }
  | .policy =>
      (Policy.all.find? fun policy => policy.text = name).map fun policy => { draft with policy? := some policy }

/-- The configuration, with defaults for what was left out. -/
def toConfig (draft : Draft) : Config :=
  ⟨draft.mode?.getD Config.development.mode, draft.policy?.getD Config.development.policy⟩

end Draft

/-- What surrounds a setting. -/
inductive Surround where
  | object
  | array
deriving DecidableEq

/-- What may follow in the document of a configuration. -/
inductive DocumentReader where
  /-- the document -/
  | start
  /-- a name, or the end of the object -/
  | objectStart
  /-- a name -/
  | nameNext (draft : Draft)
  /-- the colon after a name -/
  | colon (draft : Draft) (setting : Setting)
  /-- a comma, or the end of the object -/
  | objectNext (draft : Draft)
  /-- a setting, or the end of the array -/
  | arrayStart
  /-- a comma if there is a further setting, or the end of the array -/
  | arrayNext (draft : Draft) (last : Setting)
  /-- a setting -/
  | settingNext (draft : Draft) (setting : Setting) (surround : Surround)
  /-- the name of a variant inside an object -/
  | variantName (draft : Draft) (setting : Setting) (surround : Surround)
  /-- the colon after that name -/
  | variantColon (draft : Draft) (setting : Setting) (surround : Surround)
  /-- null -/
  | variantNull (draft : Draft) (setting : Setting) (surround : Surround)
  /-- the end of that object -/
  | variantEnd (draft : Draft) (setting : Setting) (surround : Surround)
  /-- nothing: the document is read -/
  | done (draft : Draft)
deriving DecidableEq

namespace DocumentReader

/-- A fault of the content. -/
def fault (error : DocumentError) : Except (TextError DocumentError) DocumentReader := .error (.content error)

/-- The fault of a token that begins a value of another type than expected. -/
def wrongType (token : Json.Token) (expected : String) : Except (TextError DocumentError) DocumentReader :=
  match DocumentError.describe? token with
  | some actual => fault (.wrongType actual expected)
  | none => .error .notJson

/-- Takes the name of a member. -/
def takeName (draft : Draft) (name : String) : Except (TextError DocumentError) DocumentReader :=
  match Setting.all.find? fun setting => setting.text = name with
  | none => fault (.unknownMember name)
  | some setting => if draft.has setting then fault (.repeatedMember name) else .ok (colon draft setting)

/-- What follows a setting. -/
def afterSetting (draft : Draft) (setting : Setting) : Surround → DocumentReader
  | .object => objectNext draft
  | .array => arrayNext draft setting

/-- Takes the name of a variant and goes on with the filled draft. -/
def takeVariant (draft : Draft) (setting : Setting) (name : String) (next : Draft → DocumentReader) :
    Except (TextError DocumentError) DocumentReader :=
  match draft.fill? setting name with
  | some filled => .ok (next filled)
  | none => fault (.unknownVariant name setting.variants)

/-- Takes the first token of a setting. -/
def beginSetting (draft : Draft) (setting : Setting) (surround : Surround) :
    Json.Token → Except (TextError DocumentError) DocumentReader
  | .string name => takeVariant draft setting name fun filled => afterSetting filled setting surround
  | .beginObject => .ok (variantName draft setting surround)
  | _ => .error .notJson

/-- Takes a token. -/
def step : DocumentReader → Json.Token → Except (TextError DocumentError) DocumentReader
  | start, .beginObject => .ok objectStart
  | start, .beginArray => .ok arrayStart
  | start, token => wrongType token "struct Config"
  | objectStart, .string name => takeName .empty name
  | objectStart, .endObject => .ok (done .empty)
  | nameNext draft, .string name => takeName draft name
  | colon draft setting, .colon => .ok (settingNext draft setting .object)
  | objectNext draft, .comma => .ok (nameNext draft)
  | objectNext draft, .endObject => .ok (done draft)
  | arrayStart, .endArray => .ok (done .empty)
  | arrayStart, token => beginSetting .empty .mode .array token
  | arrayNext draft .mode, .comma => .ok (settingNext draft .policy .array)
  | arrayNext draft _, .endArray => .ok (done draft)
  | settingNext draft setting surround, token => beginSetting draft setting surround token
  | variantName draft setting surround, .string name =>
      takeVariant draft setting name fun filled => variantColon filled setting surround
  | variantColon draft setting surround, .colon => .ok (variantNull draft setting surround)
  | variantNull draft setting surround, .null => .ok (variantEnd draft setting surround)
  | variantNull _ _ _, token => wrongType token "unit"
  | variantEnd draft setting surround, .endObject => .ok (afterSetting draft setting surround)
  | _, _ => .error .notJson

/-- The configuration, if the document has been read. -/
def toConfig : DocumentReader → Except (TextError DocumentError) Config
  | done draft => .ok draft.toConfig
  | _ => .error .notJson

end DocumentReader

/-- The configuration that a list of tokens makes up. -/
def ofTokens (tokens : List Json.Token) : Except (TextError DocumentError) Config :=
  match tokens.foldlM DocumentReader.step .start with
  | .ok reader => reader.toConfig
  | .error error => .error error

/-- The configuration that a text holds. -/
def ofText (text : String) : Except Error Config := (ofTokens (Json.Token.ofText text)).mapError .malformed

end RecordCheck.Config
