import TopicOperator.Number.Integer

/-!
# Binary floating-point numbers

Finite numbers of 64 bits as exact data: a sign, a mantissa below `2 ^ 53` and an exponent of two.
Here are the rounding of a quotient to the nearest such number, where a tie goes to the even
mantissa, the fewest decimal digits that lead back to a number, and the way to write them down.
Nothing here uses the machine's own floating-point numbers.
-/

namespace TopicOperator.Number

/-- A finite floating-point number: the mantissa times two to the exponent, with a sign. -/
structure Binary64 where
  negative : Bool
  mantissa : Nat
  exponent : Int
deriving DecidableEq, Repr

/-- A quotient rounded to the nearest natural number, a tie to the even one. -/
def divideToEven (num den : Nat) : Nat :=
  let quotient := num / den
  let rest := num % den
  if 2 * rest < den then quotient
  else if den < 2 * rest then quotient + 1
  else quotient + quotient % 2

/-- A power of two as a fraction. -/
def powerOfTwo (exponent : Int) : Nat × Nat :=
  (Nat.pow 2 exponent.toNat, Nat.pow 2 (-exponent).toNat)

/-- A power of ten as a fraction. -/
def powerOfTen (exponent : Int) : Nat × Nat :=
  (Nat.pow 10 exponent.toNat, Nat.pow 10 (-exponent).toNat)

namespace Binary64

/-- The least exponent of two. -/
def leastExponent : Int := -1074

/-- The greatest exponent of two. -/
def greatestExponent : Int := 971

/-- Zero with a sign. -/
def zero (negative : Bool) : Binary64 := ⟨negative, 0, leastExponent⟩

/-- Whether a number is zero. -/
def isZero (x : Binary64) : Bool := x.mantissa == 0

/-- A number with the opposite sign. -/
def negate (x : Binary64) : Binary64 := { x with negative := !x.negative }

/-- The number without its sign as a fraction. -/
def magnitude (x : Binary64) : Nat × Nat :=
  let (up, down) := powerOfTwo x.exponent
  (x.mantissa * up, down)

/-- The exponent with which a positive quotient has a mantissa of 53 bits, or the least one. -/
def exponentOf (num den : Nat) : Int :=
  let gap : Int := (num.log2 : Int) - den.log2
  let (up, down) := powerOfTwo gap
  max leastExponent (if den * up ≤ num * down then gap - 52 else gap - 53)

/-- The number nearest to a quotient, if it is not too large. -/
def round? (negative : Bool) (num den : Nat) : Option Binary64 :=
  if num = 0 then
    some (zero negative)
  else
    let exponent := exponentOf num den
    let (up, down) := powerOfTwo exponent
    let mantissa := divideToEven (num * down) (den * up)
    let (mantissa, exponent) :=
      if mantissa = Nat.pow 2 53 then (Nat.pow 2 52, exponent + 1) else (mantissa, exponent)
    if greatestExponent < exponent then none else some ⟨negative, mantissa, exponent⟩

/-- The number nearest to a natural number, if it is not too large. -/
def ofNat? (n : Nat) : Option Binary64 := round? false n 1

/-- The product of two numbers, rounded. -/
def mul? (x y : Binary64) : Option Binary64 :=
  let (a, b) := x.magnitude
  let (c, d) := y.magnitude
  round? (x.negative != y.negative) (a * c) (b * d)

/-- The quotient of two numbers, rounded, where the second is not zero. -/
def div? (x y : Binary64) : Option Binary64 :=
  let (a, b) := x.magnitude
  let (c, d) := y.magnitude
  round? (x.negative != y.negative) (a * d) (b * c)

/-- The position of the decimal point of a positive quotient: the least power of ten above it. -/
def pointOf (num den : Nat) : Int :=
  if den ≤ num then
    (decimalDigits (num / den)).length
  else
    1 - (decimalDigits ((den + num - 1) / num - 1)).length

/-- The nearest of the two neighbours on a decimal grid that lies in an interval.  The value, the
ends of the interval and the grid are given in a common unit. -/
def gridPoint? (value low high step : Nat) (closed : Bool) : Option Nat :=
  let below := value / step
  let inside := fun n : Nat =>
    if closed then low ≤ n * step && n * step ≤ high else low < n * step && n * step < high
  match inside below, inside (below + 1) with
  | true, true =>
      if 2 * (value % step) < step then some below
      else if step < 2 * (value % step) then some (below + 1)
      else some (below + below % 2)
  | true, false => some below
  | false, true => some (below + 1)
  | false, false => none

/-- Digits without zeros at the end. -/
def dropZeroEnd (digits : List Char) : List Char :=
  (digits.reverse.dropWhile (· = '0')).reverse

/-- The fewest decimal digits that lead back to a number other than zero, and the position of the
decimal point relative to their start. -/
def shortest (x : Binary64) : List Char × Int :=
  let (up, down) := powerOfTwo (x.exponent - 2)
  let quarter := 4 * x.mantissa
  let lowGap := if x.mantissa = Nat.pow 2 52 ∧ leastExponent < x.exponent then 1 else 2
  let point := pointOf (quarter * up) down
  let found := (List.range 17).findSome? fun i =>
    let count := Int.ofNat (i + 1)
    let (stepUp, stepDown) := powerOfTen (point - count)
    (gridPoint? (quarter * up * stepDown) ((quarter - lowGap) * up * stepDown)
      ((quarter + 2) * up * stepDown) (stepUp * down) (x.mantissa % 2 = 0)).map (·, count)
  match found with
  | none => ([], 0)
  | some (n, count) =>
      let digits := decimalDigits n
      (dropZeroEnd digits, point - count + digits.length)

/-- Digits with a decimal point at a position, written without an exponent. -/
def positional (digits : List Char) (point : Int) : List Char :=
  let count := digits.length
  if point ≤ 0 then
    '0' :: '.' :: (List.replicate (-point).toNat '0' ++ digits)
  else if count ≤ point.toNat then
    digits ++ List.replicate (point.toNat - count) '0' ++ ['.', '0']
  else
    digits.take point.toNat ++ '.' :: digits.drop point.toNat

/-- An exponent of ten with its sign. -/
def exponentDigits (power : Int) : List Char :=
  (if power < 0 then '-' else '+') :: decimalDigits power.natAbs

/-- Digits with an exponent of ten behind the first one. -/
def exponential (digits : List Char) (point : Int) : List Char :=
  let mantissa := match digits with
    | first :: second :: rest => first :: '.' :: second :: rest
    | short => short
  mantissa ++ 'e' :: exponentDigits (point - 1)

/-- Puts the sign in front of a number. -/
def signed (x : Binary64) (magnitude : List Char) : String :=
  String.ofList (if x.negative then '-' :: magnitude else magnitude)

/-- A number as text: with an exponent where it is far from one, otherwise always with a decimal
point. -/
def text (x : Binary64) : String :=
  if x.isZero then x.signed ['0', '.', '0']
  else
    let (digits, point) := x.shortest
    x.signed (if -5 < point ∧ point ≤ 16 then positional digits point else exponential digits point)

end Binary64

end TopicOperator.Number
