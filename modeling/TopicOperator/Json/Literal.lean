import TopicOperator.Json.Value

/-!
# Number literals

A number as it is spelled in a JSON document, and the number that it stands for.  A literal without
fraction and exponent is an integer as long as it fits into 64 bits.  Any other literal is a
floating-point number: the digits are taken into an integer of 64 bits as far as they fit, and that
integer is scaled by the power of ten, with one rounding for each of these steps.
-/

namespace TopicOperator.Json

/-- A number as it is spelled: digits before the point, behind it, and those of the exponent. -/
structure Literal where
  negative : Bool := false
  whole : List Nat
  fraction : List Nat := []
  exponent : Option (Bool × List Nat) := none
deriving DecidableEq, Repr

namespace Literal

/-- The greatest integer that digits are collected into. -/
def greatestWord : Nat := 18446744073709551615

/-- Continues an integer by digits as long as it fits, with the number of digits left over. -/
def collect : Nat → List Nat → Nat × Nat
  | n, [] => (n, 0)
  | n, d :: rest =>
      if greatestWord < n * 10 + d then (n, rest.length + 1) else collect (n * 10 + d) rest

/-- The number that digits spell. -/
def ofDigits (digits : List Nat) : Nat :=
  digits.foldl (fun n d => n * 10 + d) 0

/-- The greatest exponent of a power of ten that is a floating-point number. -/
def greatestPower : Nat := 308

/-- A power of ten, rounded. -/
def tenTo (n : Nat) : Number.Binary64 :=
  (Number.Binary64.ofNat? (Nat.pow 10 n)).getD (.zero false)

/-- Divides by the greatest power of ten as often as needed to bring an exponent into range, and
then by the power that is left. -/
def scaleDown : Nat → Number.Binary64 → Nat → Option Number.Binary64
  | 0, x, power => x.div? (tenTo power)
  | steps + 1, x, power =>
      if x.isZero then some x
      else (x.div? (tenTo greatestPower)).bind fun y => scaleDown steps y (power - greatestPower)

/-- An integer times a power of ten, if it is not too large. -/
def scale (significand : Nat) (power : Int) : Option Number.Binary64 :=
  (Number.Binary64.ofNat? significand).bind fun x =>
    if 0 ≤ power then
      if power.toNat ≤ greatestPower then x.mul? (tenTo power.toNat)
      else if x.isZero then some x
      else none
    else
      scaleDown ((power.natAbs - 1) / greatestPower) x power.natAbs

/-- The exponent that is spelled. -/
def spelledPower (l : Literal) : Int :=
  match l.exponent with
  | none => 0
  | some (true, digits) => -(ofDigits digits : Int)
  | some (false, digits) => ofDigits digits

/-- A floating-point number with the sign of a literal. -/
def withSign (l : Literal) (x : Number.Binary64) : JsonNumber :=
  .real (if l.negative then x.negate else x)

/-- The number that a literal stands for, if it is not too large. -/
def value? (l : Literal) : Option JsonNumber :=
  let (n, surplus) := collect 0 l.whole
  if surplus = 0 ∧ l.fraction = [] ∧ l.exponent = none then
    if !l.negative then some (.integer n)
    else if 0 < n ∧ n ≤ 9223372036854775808 then some (.integer (-(n : Int)))
    else (scale n 0).map l.withSign
  else
    let (n, ignored) := collect n l.fraction
    let power : Int := surplus - (l.fraction.length - ignored : Nat) + l.spelledPower
    (scale n power).map l.withSign

/-- The greatest exponent that is collected. -/
def greatestExponent : Nat := 2147483647

/-- How many digits are left over when an exponent that continues a number gets too large. -/
def surplusDigits : Nat → List Nat → Nat
  | _, [] => 0
  | n, d :: rest =>
      if greatestExponent < n * 10 + d then rest.length else surplusDigits (n * 10 + d) rest

/-- How many characters of a literal that is too large are not even looked at. -/
def unseen (l : Literal) : Nat :=
  match l.exponent with
  | some (false, digits) => surplusDigits 0 digits
  | _ => 0

/-- The values of decimal digits. -/
def digitsOf (digits : List Char) : List Nat :=
  digits.filterMap Number.digitValue?

/-- The literal of an integer. -/
def ofInteger (n : Int) : Literal where
  negative := n < 0
  whole := digitsOf (Number.decimalDigits n.natAbs)

/-- The literal that digits with a decimal point at a position are written as without an exponent. -/
def positional (negative : Bool) (digits : List Char) (point : Int) : Literal :=
  let count := digits.length
  if point ≤ 0 then
    { negative
      whole := [0]
      fraction := digitsOf (List.replicate (-point).toNat '0' ++ digits) }
  else if count ≤ point.toNat then
    { negative
      whole := digitsOf (digits ++ List.replicate (point.toNat - count) '0')
      fraction := [0] }
  else
    { negative
      whole := digitsOf (digits.take point.toNat)
      fraction := digitsOf (digits.drop point.toNat) }

/-- The literal that digits with a decimal point at a position are written as with an exponent behind
the first digit. -/
def exponential (negative : Bool) (digits : List Char) (point : Int) : Literal where
  negative := negative
  whole := digitsOf (digits.take 1)
  fraction := digitsOf (digits.drop 1)
  exponent := some (decide (point - 1 < 0), digitsOf (Number.decimalDigits (point - 1).natAbs))

/-- The literal that a floating-point number is written as. -/
def ofReal (x : Number.Binary64) : Literal :=
  if x.isZero then
    { negative := x.negative, whole := [0], fraction := [0] }
  else
    let (digits, point) := x.shortest
    if -5 < point ∧ point ≤ 16 then positional x.negative digits point
    else exponential x.negative digits point

end Literal

end TopicOperator.Json
