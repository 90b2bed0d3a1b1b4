import RecordCheck.Text.Invisible

/-!
# Quoted text

A text between double quotes. Quotes, backslashes and the common controls have short escapes; every other
character without a visible form is written by its code point in braces. A text between backquotes stands as it is.
-/

namespace RecordCheck.Text

/-- The written form of one character inside double quotes. -/
def escape (c : Char) : List Char :=
  if c = '"' then ['\\', '"']
  else if c = '\\' then ['\\', '\\']
  else if c = '\n' then ['\\', 'n']
  else if c = '\r' then ['\\', 'r']
  else if c = '\t' then ['\\', 't']
  else if c = '\x00' then ['\\', '0']
  else if isInvisible c then '\\' :: 'u' :: '\x7b' :: Nat.toDigits 16 c.toNat ++ ['\x7d']
  else [c]

/-- The text between double quotes, with escapes. -/
def quoted (text : String) : String :=
  String.ofList ('"' :: text.toList.flatMap escape ++ ['"'])

/-- The text between backquotes. -/
def backquoted (text : String) : String := "`" ++ text ++ "`"

end RecordCheck.Text
