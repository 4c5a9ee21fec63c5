/-!
# Bounded integers in decimal

How a bounded integer is read from a text: an optional sign, then one or more ASCII digits.  A plus
sign is always allowed, a minus sign only where the integers have one.  Reading stops at the first
thing that is wrong, so a digit that does not fit is reported before a later character that is no
digit.
-/

namespace TopicOperator.Number

/-- Why a text is not a bounded integer. -/
inductive IntegerError where
  | empty
  | invalidDigit
  | tooLarge
  | tooSmall
deriving DecidableEq, Repr

/-- The wording of an integer error. -/
def IntegerError.message : IntegerError → String
  | .empty => "cannot parse integer from empty string"
  | .invalidDigit => "invalid digit found in string"
  | .tooLarge => "number too large to fit in target type"
  | .tooSmall => "number too small to fit in target type"

/-- A set of integers between two bounds. -/
structure IntegerKind where
  least : Int
  greatest : Int
  signed : Bool

/-- Integers of 64 bits with a sign. -/
def int64 : IntegerKind := ⟨-9223372036854775808, 9223372036854775807, true⟩

/-- Integers of 64 bits without a sign. -/
def word64 : IntegerKind := ⟨0, 18446744073709551615, false⟩

/-- The value of an ASCII digit. -/
def digitValue? (c : Char) : Option Nat :=
  if '0' ≤ c ∧ c ≤ '9' then some (c.toNat - 48) else none

/-- The value of a hexadecimal digit. -/
def hexValue? (c : Char) : Option Nat :=
  if '0' ≤ c ∧ c ≤ '9' then some (c.toNat - 48)
  else if 'a' ≤ c ∧ c ≤ 'f' then some (c.toNat - 87)
  else if 'A' ≤ c ∧ c ≤ 'F' then some (c.toNat - 55)
  else none

/-- The non-negative number that digits continue, as long as it does not pass a bound. -/
def readUpTo (bound : Nat) : Nat → List Char → Except IntegerError Nat
  | value, [] => .ok value
  | value, c :: rest =>
      match digitValue? c with
      | none => .error .invalidDigit
      | some d =>
          if bound < value * 10 + d then .error .tooLarge
          else readUpTo bound (value * 10 + d) rest

/-- The number that a text stands for. -/
def IntegerKind.read (kind : IntegerKind) (s : String) : Except IntegerError Int :=
  match s.toList with
  | [] => .error .empty
  | '+' :: [] => .error .invalidDigit
  | '-' :: [] => .error .invalidDigit
  | '+' :: digits => (readUpTo kind.greatest.toNat 0 digits).map Int.ofNat
  | '-' :: digits =>
      if kind.signed then
        match readUpTo (-kind.least).toNat 0 digits with
        | .ok n => .ok (-(n : Int))
        | .error .tooLarge => .error .tooSmall
        | .error e => .error e
      else
        .error .invalidDigit
  | digits => (readUpTo kind.greatest.toNat 0 digits).map Int.ofNat

/-- The number that a text stands for, if it does. -/
def IntegerKind.read? (kind : IntegerKind) (s : String) : Option Int :=
  (kind.read s).toOption

/-- A digit. -/
def digitChar (d : Nat) : Char :=
  Char.ofNat (48 + d)

/-- The decimal digits of a number, without leading zeros. -/
def decimalDigits (n : Nat) : List Char :=
  if n < 10 then [digitChar n] else decimalDigits (n / 10) ++ [digitChar (n % 10)]

/-- A number in decimal. -/
def decimal (n : Nat) : String :=
  String.ofList (decimalDigits n)

/-- An integer in decimal, with a minus sign if it is negative. -/
def signedDigits (i : Int) : List Char :=
  if i < 0 then '-' :: decimalDigits i.natAbs else decimalDigits i.natAbs

/-- An integer in decimal. -/
def signedDecimal (i : Int) : String :=
  String.ofList (signedDigits i)

/-- Digits of a number, filled with zeros in front to a width. -/
def paddedDigits (width n : Nat) : List Char :=
  let digits := decimalDigits n
  List.replicate (width - digits.length) '0' ++ digits

end TopicOperator.Number
