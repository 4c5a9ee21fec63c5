/-!
# Instants

A point in time, counted in nanoseconds from the start of 1970 in UTC.  Two instants are equal only
if they agree to the nanosecond; what is written of one is its whole seconds.
-/

namespace TopicOperator

/-- A point in time. -/
structure Instant where
  nanoseconds : Int
deriving DecidableEq, Repr, Inhabited

namespace Instant

/-- Nanoseconds in a second. -/
def second : Int := 1000000000

/-- The instant a number of seconds after the start of 1970. -/
def ofSeconds (seconds : Int) : Instant := ⟨seconds * second⟩

/-- The whole seconds since the start of 1970, towards the past. -/
def seconds (t : Instant) : Int := t.nanoseconds / second

/-- The instant at the start of its second. -/
def toSecond (t : Instant) : Instant := ofSeconds t.seconds

/-- The next instant. -/
def next (t : Instant) : Instant := ⟨t.nanoseconds + 1⟩

theorem seconds_ofSeconds (s : Int) : (ofSeconds s).seconds = s := by
  simp only [seconds, ofSeconds, second]
  omega

theorem toSecond_toSecond (t : Instant) : t.toSecond.toSecond = t.toSecond := by
  simp [toSecond, seconds_ofSeconds]

end Instant

end TopicOperator
