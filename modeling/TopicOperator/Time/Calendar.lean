import TopicOperator.Time.Instant

/-!
# Calendar

Dates of the Gregorian calendar, extended to all years, and their count in days.  A year is found
from a count of days by its mean length, which misses by at most one year.
-/

namespace TopicOperator

/-- A date of the calendar, with months and days counted from one. -/
structure Date where
  year : Int
  month : Nat
  day : Nat
deriving DecidableEq, Repr

namespace Date

/-- The days from the start of the year zero to the start of a year. -/
def daysBefore (year : Int) : Int :=
  365 * year + (year + 3) / 4 - (year + 99) / 100 + (year + 399) / 400

/-- Whether a year has a leap day. -/
def isLeap (year : Int) : Bool :=
  year % 4 == 0 && (year % 100 != 0 || year % 400 == 0)

/-- The lengths of the months of a year. -/
def monthLengths (year : Int) : List Nat :=
  [31, if isLeap year then 29 else 28, 31, 30, 31, 30, 31, 31, 30, 31, 30, 31]

/-- The year of a day that is counted from the start of the year zero. -/
def yearOf (n : Int) : Int :=
  let guess := n * 400 / 146097
  if n < daysBefore guess then guess - 1
  else if daysBefore (guess + 1) ≤ n then guess + 1
  else guess

/-- The month and day of a day that is counted from the start of a year. -/
def splitMonth : List Nat → Nat → Nat × Nat
  | [], n => (1, n + 1)
  | length :: rest, n =>
      if n < length then (1, n + 1)
      else
        let (month, day) := splitMonth rest (n - length)
        (month + 1, day)

/-- The day of 1970-01-01, counted from the start of the year zero. -/
def epoch : Int := 719528

/-- The date of a day that is counted from 1970-01-01. -/
def ofDay (n : Int) : Date :=
  let n := n + epoch
  let year := yearOf n
  let (month, day) := splitMonth (monthLengths year) (n - daysBefore year).toNat
  ⟨year, month, day⟩

/-- The day of a date, counted from 1970-01-01. -/
def toDay (date : Date) : Int :=
  let whole : Nat := ((monthLengths date.year).take (date.month - 1)).foldl (· + ·) 0
  daysBefore date.year + whole + date.day - 1 - epoch

/-- Whether there is such a date. -/
def isValid (date : Date) : Bool :=
  1 ≤ date.month && 1 ≤ date.day &&
    match (monthLengths date.year)[date.month - 1]? with
    | some length => date.day ≤ length
    | none => false

end Date

end TopicOperator
