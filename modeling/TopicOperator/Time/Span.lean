import TopicOperator.Text.Blank
import TopicOperator.Text.Quoted
import TopicOperator.Time.Duration

/-!
# Spelled durations

Durations as people write them: numbers with units, one after the other, as in `1h 5m` or `1.5s`.
Blanks may stand between and inside of the numbers.  A fraction must come out even in nanoseconds,
and for hours and longer units in seconds.  All numbers have 64 bits.
-/

namespace TopicOperator.Duration

/-- Why a text is no duration.  Positions are counted in bytes. -/
inductive SpellingError where
  | blank
  | invalidCharacter (position : Nat)
  | numberExpected (position : Nat)
  | unknownUnit (unit : String) (value : Nat)
  | tooLarge
deriving DecidableEq, Repr

/-- The wording of a spelling error. -/
def SpellingError.message : SpellingError → String
  | .blank => "value was empty"
  | .invalidCharacter position => "invalid character at " ++ Number.decimal position
  | .numberExpected position => "expected number at " ++ Number.decimal position
  | .unknownUnit unit value =>
      if unit.isEmpty then
        let n := Number.decimal value
        "time unit needed, for example " ++ n ++ "sec or " ++ n ++ "ms"
      else
        "unknown time unit " ++ Text.quoted unit ++
          ", supported units: ns, us/µs, ms, sec, min, hours, days, weeks, months, years" ++
          " (and few variations)"
  | .tooLarge =>
      "number is too large or cannot be represented without a lack of precision" ++
        " (values below 1ns are not supported)"

/-- A unit of time: how many nanoseconds or seconds it has, and the finest step of its fractions. -/
structure TimeUnit where
  /-- Nanoseconds in the unit, for units shorter than a second. -/
  nanoseconds : Nat
  /-- Seconds in the unit, for all others. -/
  seconds : Nat
  /-- Nanoseconds in the unit if its fractions are counted in nanoseconds. -/
  fractionNanoseconds : Nat
  /-- Seconds in the unit if its fractions are counted in seconds. -/
  fractionSeconds : Nat

/-- The unit of a name. -/
def TimeUnit.ofName? (name : String) : Option TimeUnit :=
  if name ∈ ["nanos", "nsec", "ns"] then some ⟨1, 0, 0, 0⟩
  else if name ∈ ["usec", "us", "µs"] then some ⟨1000, 0, 1000, 0⟩
  else if name ∈ ["millis", "msec", "ms"] then some ⟨1000000, 0, 1000000, 0⟩
  else if name ∈ ["seconds", "second", "secs", "sec", "s"] then some ⟨0, 1, 1000000000, 0⟩
  else if name ∈ ["minutes", "minute", "mins", "min", "m"] then some ⟨0, 60, 60000000000, 0⟩
  else if name ∈ ["hours", "hour", "hrs", "hr", "h"] then some ⟨0, 3600, 0, 3600⟩
  else if name ∈ ["days", "day", "d"] then some ⟨0, 86400, 0, 86400⟩
  else if name ∈ ["weeks", "week", "wks", "wk", "w"] then some ⟨0, 604800, 0, 604800⟩
  else if name ∈ ["months", "month", "M"] then some ⟨0, 2630016, 0, 2630016⟩
  else if name ∈ ["years", "year", "yrs", "yr", "y"] then some ⟨0, 31557600, 0, 31557600⟩
  else none

/-- A number that fits into 64 bits. -/
def word (n : Nat) : Except SpellingError Nat :=
  if n ≤ 18446744073709551615 then .ok n else .error .tooLarge

/-- A product divided without rest, all within 64 bits. -/
def exactShare (numerator factor denominator : Nat) : Except SpellingError Nat := do
  let n ← word (numerator * factor)
  if n % denominator = 0 then .ok (n / denominator) else .error .tooLarge

/-- A duration with seconds and nanoseconds added. -/
def extend (d : Duration) (seconds nanoseconds : Nat) : Except SpellingError Duration := do
  let nanoseconds ← word (d.fraction + nanoseconds)
  let seconds ← word (d.seconds + seconds + nanoseconds / 1000000000)
  return ⟨seconds * 1000000000 + nanoseconds % 1000000000⟩

/-- A fraction: its digits as a number, and the power of ten they are divided by. -/
structure Share where
  numerator : Nat
  denominator : Nat

/-- A duration with a number of units added. -/
def extendBy (d : Duration) (n : Nat) (share : Option Share) (name : String) :
    Except SpellingError Duration :=
  match TimeUnit.ofName? name with
  | none => .error (.unknownUnit name n)
  | some unit => do
      let d ← extend d (← word (n * unit.seconds)) (← word (n * unit.nanoseconds))
      match share with
      | none => return d
      | some share =>
          if unit.fractionNanoseconds = 0 ∧ unit.fractionSeconds = 0 then
            .error .tooLarge
          else
            extend d (← exactShare share.numerator unit.fractionSeconds share.denominator)
              (← exactShare share.numerator unit.fractionNanoseconds share.denominator)

/-- Whether a character may stand in the name of a unit. -/
def isUnitLetter (c : Char) : Bool :=
  ('a' ≤ c && c ≤ 'z') || ('A' ≤ c && c ≤ 'Z') || c == 'µ'

/-- What a reader of durations is in the middle of. -/
inductive Phase where
  /-- Before a number, from a position on. -/
  | lead (position : Nat)
  /-- Inside a number. -/
  | number (n : Nat)
  /-- Behind the decimal point at a position. -/
  | point (n position : Nat) (share : Share)
  /-- Inside a unit, its letters with the latest one first. -/
  | unit (n : Nat) (share : Option Share) (letters : List Char)

/-- A reader of durations: what was read, the position in bytes, and whether any number came. -/
structure Progress where
  total : Duration := .zero
  position : Nat := 0
  started : Bool := false
  phase : Phase := .lead 0

/-- The name of a unit from its letters. -/
def unitName (letters : List Char) : String := String.ofList letters.reverse

/-- One character of a spelled duration. -/
def readChar (state : Progress) (c : Char) : Except SpellingError Progress := do
  let here := state.position
  let state := { state with position := here + c.utf8Size }
  match state.phase with
  | .lead first =>
      match Number.digitValue? c with
      | some d => return { state with started := true, phase := .number d }
      | none => if Text.isBlank c then return state else .error (.numberExpected first)
  | .number n =>
      match Number.digitValue? c with
      | some d => return { state with phase := .number (← word (n * 10 + d)) }
      | none =>
          if Text.isBlank c then return state
          else if isUnitLetter c then return { state with phase := .unit n none [c] }
          else if c = '.' then return { state with phase := .point n here ⟨0, 1⟩ }
          else .error (.invalidCharacter here)
  | .point n dot share =>
      match Number.digitValue? c with
      | some d =>
          let denominator ← word (share.denominator * 10)
          let numerator ← word (share.numerator * 10 + d)
          return { state with phase := .point n state.position ⟨numerator, denominator⟩ }
      | none =>
          if Text.isBlank c then return { state with phase := .point n state.position share }
          else if isUnitLetter c then
            if share.denominator = 1 then .error (.invalidCharacter dot)
            else return { state with phase := .unit n (some share) [c] }
          else .error (.invalidCharacter dot)
  | .unit n share letters =>
      match Number.digitValue? c with
      | some d =>
          return { state with
            total := ← extendBy state.total n share (unitName letters), phase := .number d }
      | none =>
          if Text.isBlank c then
            let total ← extendBy state.total n share (unitName letters)
            return { state with total := total, phase := .lead state.position }
          else if isUnitLetter c then return { state with phase := .unit n share (c :: letters) }
          else .error (.invalidCharacter here)

/-- The duration at the end of the characters. -/
def readEnd (state : Progress) : Except SpellingError Duration :=
  match state.phase with
  | .lead _ => if state.started then .ok state.total else .error .blank
  | .number n => extendBy state.total n none ""
  | .point n dot share =>
      if share.denominator = 1 then .error (.invalidCharacter dot)
      else extendBy state.total n (some share) ""
  | .unit n share letters => extendBy state.total n share (unitName letters)

/-- The duration that a text spells.  A lone zero needs no unit. -/
def read (s : String) : Except SpellingError Duration :=
  if s = "0" then .ok .zero else (s.toList.foldlM readChar {}) >>= readEnd

end TopicOperator.Duration
