import RecordCheck.Text.Blank

/-!
# Configuration

Whether components check their properties at all, and what they do with properties that they do not declare.
-/

namespace RecordCheck

/-- Whether properties are checked. -/
inductive Mode where
  | development
  | production
deriving DecidableEq

namespace Mode

/-- The name of the mode. -/
def text : Mode → String
  | development => "development"
  | production => "production"

/-- The modes in the order of their names in messages. -/
def all : List Mode := [development, production]

/-- The mode that a variable selects: only the exact word selects production. -/
def ofVariable (text : String) : Mode := if text = "production" then production else development

end Mode

/-- What is done with properties that a component does not declare. -/
inductive Policy where
  | allow
  | warn
  | deny
deriving DecidableEq

namespace Policy

/-- The name of the policy. -/
def text : Policy → String
  | allow => "allow"
  | warn => "warn"
  | deny => "deny"

/-- The policies in the order of their names in messages. -/
def all : List Policy := [allow, warn, deny]

/-- The policy that a text names; blanks around it and the case of its letters do not count. -/
def parse? (text : String) : Option Policy :=
  let word := Text.foldCase (Text.trim text.toList)
  all.find? fun policy => policy.text.toList = word

end Policy

/-- How components treat their properties. -/
structure Config where
  mode : Mode
  policy : Policy
deriving DecidableEq

namespace Config

/-- Properties are checked, and undeclared ones allowed. -/
def development : Config := ⟨.development, .allow⟩

/-- Properties are not checked. -/
def production : Config := ⟨.production, .allow⟩

/-- Without a choice, properties are checked. -/
instance : Inhabited Config := ⟨development⟩

/-- Whether properties are left unchecked. -/
def isProduction (config : Config) : Bool := config.mode = .production

end Config

end RecordCheck
