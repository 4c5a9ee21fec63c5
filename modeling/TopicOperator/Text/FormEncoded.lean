import TopicOperator.Text.Quoted

/-!
# Form encoding

Text inside the query of a request: letters, digits and four marks stand for themselves, a space is a
plus sign, and every other byte is a percent sign with two hexadecimal digits.
-/

namespace TopicOperator.Text

/-- Whether a byte stands for itself in a query. -/
def isPlainByte (b : UInt8) : Bool :=
  let n := b.toNat
  (0x30 ≤ n && n ≤ 0x39) || (0x41 ≤ n && n ≤ 0x5A) || (0x61 ≤ n && n ≤ 0x7A) ||
    n == 0x2A || n == 0x2D || n == 0x2E || n == 0x5F

/-- An uppercase hexadecimal digit. -/
def upperHexDigit (n : Nat) : Char :=
  if n < 10 then Char.ofNat (48 + n) else Char.ofNat (55 + n)

/-- A byte in a query. -/
def formEncodeByte (b : UInt8) : List Char :=
  let n := b.toNat
  if n = 0x20 then ['+']
  else if isPlainByte b then [Char.ofNat n]
  else ['%', upperHexDigit (n / 16), upperHexDigit (n % 16)]

/-- A text in a query. -/
def formEncode (s : String) : String :=
  String.ofList (s.toUTF8.toList.flatMap formEncodeByte)

end TopicOperator.Text
