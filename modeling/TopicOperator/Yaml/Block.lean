import TopicOperator.Json.Writer
import TopicOperator.Text.Blank
import TopicOperator.Text.Choice
import TopicOperator.Text.Printable

/-!
# YAML in block style

JSON values as YAML documents, a line for every scalar.  The items of a list stand below their key
without further indentation.  A text stands for itself where no reader can take it for anything else,
otherwise between single quotes, or between double quotes if it holds what no line can show.
-/

namespace TopicOperator.Yaml

open Json

/-- The words that stand for truth values and for nothing. -/
def reservedWords : List String := ["true", "false", "null", "~", ".inf", ".nan"]

/-- The characters that mean something at the start of a scalar. -/
def indicators : List Char :=
  ['-', '?', ':', ',', '[', ']', '{', '}', '#', '&', '*', '!', '|', '>', '\'', '"', '%', '@', '\x60']

/-- A digit. -/
def isDigit (c : Char) : Bool := '0' ≤ c && c ≤ '9'

/-- Whether characters may be taken for a number: they start with a digit, perhaps after a sign or a
point. -/
def looksNumeric : List Char → Bool
  | [] => false
  | [c] => isDigit c
  | c :: d :: _ => isDigit c || ((c == '-' || c == '+' || c == '.') && isDigit d)

/-- Whether a colon or a number sign in characters would end a scalar. -/
def breaksOff : List Char → Bool
  | [] => false
  | [c] => c == ':'
  | c :: d :: rest =>
      (c == ':' && Text.isBlank d) || (Text.isBlank c && d == '#') || breaksOff (d :: rest)

/-- Whether a line can show all characters of a text. -/
def isShown (s : String) : Bool :=
  s.toList.all Text.isPrintable

/-- Whether a text can stand for itself. -/
def isPlain (s : String) : Bool :=
  match s.toList with
  | [] => false
  | c :: cs =>
      !indicators.contains c && !looksNumeric (c :: cs) && !breaksOff (c :: cs) &&
        !(Text.isBlank c) && !((c :: cs).getLast?.any Text.isBlank) && isShown s &&
        (Text.chosenCaseless? (reservedWords.map fun w => (w, ())) s).isNone

/-- A text between single quotes, where a single quote is written twice. -/
def singleQuoted (s : String) : String :=
  String.ofList (['\''] ++
    s.toList.flatMap (fun c => if c = '\'' then ['\'', '\''] else [c]) ++ ['\''])

/-- A text as a scalar. -/
def textScalar (s : String) : String :=
  if isPlain s then s
  else if isShown s then singleQuoted s
  else (Json.text s).write

/-- A value that is written on the line of its key, or the lines of a mapping or a list. -/
inductive Shape where
  | scalar (line : String)
  | mapping (lines : List String)
  | sequence (lines : List String)

/-- Lines moved to the right. -/
def indent (lines : List String) : List String :=
  lines.map ("  " ++ ·)

/-- The lines of a member. -/
def memberLines (name : String) : Shape → List String
  | .scalar line => [textScalar name ++ ": " ++ line]
  | .mapping lines => (textScalar name ++ ":") :: indent lines
  | .sequence lines => (textScalar name ++ ":") :: lines

/-- The lines of an item, whose first line starts with a dash. -/
def itemLines : Shape → List String
  | .scalar line => ["- " ++ line]
  | .mapping lines | .sequence lines =>
      match lines with
      | [] => []
      | first :: others => ("- " ++ first) :: indent others

mutual

/-- The shape of a value. -/
def shape : Json → Shape
  | .text s => .scalar (textScalar s)
  | .null => .scalar "null"
  | .bool b => .scalar (if b then "true" else "false")
  | .number n => .scalar (String.ofList (writeNumber n))
  | .list items => if items.isEmpty then .scalar "[]" else .sequence (sequenceLines items)
  | .object members => if members.isEmpty then .scalar "\x7b\x7d" else .mapping (mappingLines members)

/-- The lines of a list. -/
def sequenceLines : List Json → List String
  | [] => []
  | item :: rest => itemLines (shape item) ++ sequenceLines rest

/-- The lines of a mapping. -/
def mappingLines : List (String × Json) → List String
  | [] => []
  | (name, value) :: rest => memberLines name (shape value) ++ mappingLines rest

end

/-- The lines of a value. -/
def lines (value : Json) : List String :=
  match shape value with
  | .scalar line => [line]
  | .mapping lines | .sequence lines => lines

/-- A document that holds a value, after the line that starts a document. -/
def document (value : Json) : String :=
  String.join (("---" :: lines value).map (· ++ "\n"))

end TopicOperator.Yaml
