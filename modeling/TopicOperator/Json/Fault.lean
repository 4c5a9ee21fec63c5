import TopicOperator.Number.Integer

/-!
# Faults of a document

What may be wrong with the form of a JSON document, and where.  A place is the number of bytes of the
document before it; people are shown the line and the column.  A document that ends too early is told
from one that goes on with something wrong.
-/

namespace TopicOperator.Json

/-- What is wrong where a document stops being well formed. -/
inductive FaultKind where
  | endInList
  | endInObject
  | endInText
  | endInValue
  | noColon
  | noListEnd
  | noObjectEnd
  | noWord
  | noValue
  | noName
  | badEscape
  | badNumber
  | hugeNumber
  | control
  /-- Half of a surrogate pair that is followed by another escape or by none. -/
  | loneSurrogate
  | openSurrogate
  | trailingComma
  | trailingText
  /-- Lists and objects are nested too deeply. -/
  | tooDeep
deriving DecidableEq, Repr

namespace FaultKind

/-- Whether the document ends too early. -/
def isEnd : FaultKind → Bool
  | endInList | endInObject | endInText | endInValue => true
  | _ => false

/-- The wording of what is wrong. -/
def message : FaultKind → String
  | endInList => "EOF while parsing a list"
  | endInObject => "EOF while parsing an object"
  | endInText => "EOF while parsing a string"
  | endInValue => "EOF while parsing a value"
  | noColon => "expected `:`"
  | noListEnd => "expected `,` or `]`"
  | noObjectEnd => "expected `,` or `\x7d`"
  | noWord => "expected ident"
  | noValue => "expected value"
  | noName => "key must be a string"
  | badEscape => "invalid escape"
  | badNumber => "invalid number"
  | hugeNumber => "number out of range"
  | control => "control character (\\u0000-\\u001F) found while parsing a string"
  | loneSurrogate => "lone leading surrogate in hex escape"
  | openSurrogate => "unexpected end of hex escape"
  | trailingComma => "trailing comma"
  | trailingText => "trailing characters"
  | tooDeep => "recursion limit exceeded"

end FaultKind

/-- What is wrong, and the number of bytes before the place. -/
structure Fault where
  kind : FaultKind
  place : Nat
deriving DecidableEq, Repr

/-- Where a document stops being well formed: the fault that is met by one who reads the part, and the
fault that is met by one who skims over it. -/
structure Break where
  reading : Fault
  skimming : Fault
deriving DecidableEq, Repr

namespace Break

/-- A break that is the same for reading and skimming. -/
def plain (kind : FaultKind) (place : Nat) : Break := ⟨⟨kind, place⟩, ⟨kind, place⟩⟩

/-- A break of two kinds. -/
def split (reading skimming : FaultKind) (place : Nat) : Break :=
  ⟨⟨reading, place⟩, ⟨skimming, place⟩⟩

end Break

/-- A line and a column, as people count them. -/
structure LineColumn where
  line : Nat
  column : Nat
deriving DecidableEq, Repr

namespace LineColumn

/-- Finds a place among characters, given the number of bytes before them and the line that they are
in with its start. -/
def search (place : Nat) : List Char → Nat → Nat → Nat → LineColumn
  | [], _, line, start => ⟨line, place - start⟩
  | c :: rest, index, line, start =>
      if index < place ∧ c = '\n' then search place rest (index + 1) (line + 1) (index + 1)
      else search place rest (index + c.utf8Size) line start

/-- The line of a place in a document, counted from one, and the bytes before it in that line. -/
def ofPlace (document : String) (place : Nat) : LineColumn :=
  search place document.toList 0 1 0

/-- The text that tells a line and a column. -/
def text (p : LineColumn) : String :=
  " at line " ++ Number.decimal p.line ++ " column " ++ Number.decimal p.column

end LineColumn

end TopicOperator.Json
