import TopicOperator.Json.Value

/-!
# Writing JSON

JSON values as text without blanks.  In a text the quotation mark, the backslash and the controls
are escaped, five controls by a letter and the others by four hexadecimal digits; every other
character stands for itself.
-/

namespace TopicOperator.Json

/-- A lowercase hexadecimal digit. -/
def hexDigit (n : Nat) : Char :=
  Nat.digitChar n

/-- A character inside quotation marks. -/
def writeChar (c : Char) : List Char :=
  if c = '"' then ['\\', '"']
  else if c = '\\' then ['\\', '\\']
  else if c = '\n' then ['\\', 'n']
  else if c = '\r' then ['\\', 'r']
  else if c = '\t' then ['\\', 't']
  else if c = '\x08' then ['\\', 'b']
  else if c = '\x0c' then ['\\', 'f']
  else if c.toNat < 32 then ['\\', 'u', '0', '0', hexDigit (c.toNat / 16), hexDigit (c.toNat % 16)]
  else [c]

/-- A text between quotation marks, followed by more. -/
def writeText (s : String) (rest : List Char) : List Char :=
  '"' :: (s.toList.flatMap writeChar ++ '"' :: rest)

/-- A number. -/
def writeNumber : JsonNumber → List Char
  | .integer n => Number.signedDigits n
  | .real x => x.text.toList

mutual

/-- A value as text, followed by more. -/
def writeThen : Json → List Char → List Char
  | .null, rest => 'n' :: 'u' :: 'l' :: 'l' :: rest
  | .bool true, rest => 't' :: 'r' :: 'u' :: 'e' :: rest
  | .bool false, rest => 'f' :: 'a' :: 'l' :: 's' :: 'e' :: rest
  | .number n, rest => writeNumber n ++ rest
  | .text s, rest => writeText s rest
  | .list [], rest => '[' :: ']' :: rest
  | .list (first :: others), rest => '[' :: writeThen first (writeItems others rest)
  | .object [], rest => '{' :: '}' :: rest
  | .object ((name, value) :: others), rest =>
      '{' :: writeText name (':' :: writeThen value (writeMembers others rest))

/-- The items after the first one and the end of a list. -/
def writeItems : List Json → List Char → List Char
  | [], rest => ']' :: rest
  | item :: others, rest => ',' :: writeThen item (writeItems others rest)

/-- The members after the first one and the end of an object. -/
def writeMembers : List (String × Json) → List Char → List Char
  | [], rest => '}' :: rest
  | (name, value) :: others, rest =>
      ',' :: writeText name (':' :: writeThen value (writeMembers others rest))

end

/-- A value as text. -/
def write (value : Json) : String :=
  String.ofList (writeThen value [])

end TopicOperator.Json
