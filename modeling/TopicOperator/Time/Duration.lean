import TopicOperator.Number.Integer

/-!
# Durations

Spans of time in nanoseconds, and their text in messages: in seconds, or in the greatest smaller unit
that makes them at least one, with a fraction that has no zeros at its end.
-/

namespace TopicOperator

/-- A span of time. -/
structure Duration where
  nanoseconds : Nat
deriving DecidableEq, Repr, Inhabited

namespace Duration

/-- The span of no time. -/
def zero : Duration := ⟨0⟩

/-- A number of seconds. -/
def ofSeconds (n : Nat) : Duration := ⟨n * 1000000000⟩

/-- A number of milliseconds. -/
def ofMilliseconds (n : Nat) : Duration := ⟨n * 1000000⟩

/-- The whole seconds of a duration. -/
def seconds (d : Duration) : Nat := d.nanoseconds / 1000000000

/-- The nanoseconds of a duration beyond its whole seconds. -/
def fraction (d : Duration) : Nat := d.nanoseconds % 1000000000

/-- One duration after the other. -/
def add (a b : Duration) : Duration := ⟨a.nanoseconds + b.nanoseconds⟩

instance : Add Duration := ⟨add⟩

instance : LT Duration := ⟨fun a b => a.nanoseconds < b.nanoseconds⟩

instance : LE Duration := ⟨fun a b => a.nanoseconds ≤ b.nanoseconds⟩

instance (a b : Duration) : Decidable (a < b) := inferInstanceAs (Decidable (a.nanoseconds < b.nanoseconds))

instance (a b : Duration) : Decidable (a ≤ b) := inferInstanceAs (Decidable (a.nanoseconds ≤ b.nanoseconds))

/-- A number with a fraction that is given in units of some count of digits. -/
def decimalFraction (whole fraction digits : Nat) : List Char :=
  let spelled := (Number.paddedDigits digits fraction).reverse.dropWhile (· = '0')
  Number.decimalDigits whole ++ if spelled.isEmpty then [] else '.' :: spelled.reverse

/-- A duration as messages show it. -/
def text (d : Duration) : String :=
  let n := d.nanoseconds
  String.ofList <|
    if 1000000000 ≤ n then decimalFraction (n / 1000000000) (n % 1000000000) 9 ++ ['s']
    else if 1000000 ≤ n then decimalFraction (n / 1000000) (n % 1000000) 6 ++ ['m', 's']
    else if 1000 ≤ n then decimalFraction (n / 1000) (n % 1000) 3 ++ ['µ', 's']
    else Number.decimalDigits n ++ ['n', 's']

end Duration

end TopicOperator
