import TopicOperator.Text.Printable

/-!
# Quoted text

How messages show a text: between double quotes, with `"` and `\` escaped by a backslash, the
common controls by letter, and every other character that cannot stand for itself by its code point
in hexadecimal.  A single quote stays, except in a path.
-/

namespace TopicOperator.Text

/-- The lowercase hexadecimal digits of a number, without leading zeros. -/
def hexDigits (n : Nat) : List Char :=
  Nat.toDigits 16 n

/-- A character as it is shown between double quotes. -/
def quotedChar (c : Char) : List Char :=
  match c with
  | '"' => ['\\', '"']
  | '\\' => ['\\', '\\']
  | '\n' => ['\\', 'n']
  | '\r' => ['\\', 'r']
  | '\t' => ['\\', 't']
  | '\x00' => ['\\', '0']
  | c => if isPrintable c then [c] else "\\u\x7b".toList ++ hexDigits c.toNat ++ ['}']

/-- A text between double quotes. -/
def quoted (s : String) : String :=
  String.ofList (['"'] ++ s.toList.flatMap quotedChar ++ ['"'])

/-- A path between double quotes, where a single quote is escaped as well. -/
def quotedPath (s : String) : String :=
  String.ofList (['"'] ++
    s.toList.flatMap (fun c => if c = '\'' then ['\\', c] else quotedChar c) ++ ['"'])

/-- Texts in brackets, with a comma and a space between them. -/
def bracketed (items : List String) : String :=
  "[" ++ String.intercalate ", " items ++ "]"

/-- A list of texts, each quoted, in brackets. -/
def quotedList (items : List String) : String :=
  bracketed (items.map quoted)

end TopicOperator.Text
