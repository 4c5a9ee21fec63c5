import TopicOperator.Number.Integer
import TopicOperator.Time.Calendar

/-!
# Time stamps

Instants as text.  They are written in UTC and to the second, as in `2020-01-02T03:04:05Z`.  Many
more forms are read: dates with or without dashes, years of six digits with a sign, times cut to the
hour or the minute, fractions of up to nine digits, offsets from UTC, and annotations in brackets at
the end.  A date alone, or a time without an offset, is no instant.
-/

namespace TopicOperator.Instant

/-- Seconds in a day. -/
def daySeconds : Int := 86400

/-- A year as it is written: filled up to four places, of which a sign takes one. -/
def writeYear (year : Int) : List Char :=
  if year < 0 then '-' :: Number.paddedDigits 3 year.natAbs else Number.paddedDigits 4 year.natAbs

/-- A time of the day as it is written. -/
def writeClock (second : Nat) : List Char :=
  Number.paddedDigits 2 (second / 3600) ++ ':' ::
    (Number.paddedDigits 2 (second / 60 % 60) ++ ':' :: Number.paddedDigits 2 (second % 60))

/-- A date as it is written. -/
def writeDate (date : Date) : List Char :=
  writeYear date.year ++ '-' ::
    (Number.paddedDigits 2 date.month ++ '-' :: Number.paddedDigits 2 date.day)

/-- An instant as it is written. -/
def write (t : Instant) : String :=
  String.ofList <|
    writeDate (.ofDay (t.seconds / daySeconds)) ++
      'T' :: (writeClock (t.seconds % daySeconds).toNat ++ ['Z'])

namespace Stamp

/-- A reader of a part of a time stamp: its value and the characters behind it. -/
abbrev Part (α : Type) := List Char → Option (α × List Char)

/-- The number that a list of digits spells. -/
def number? : List Char → Nat → Option Nat
  | [], n => some n
  | c :: rest, n => (Number.digitValue? c).bind fun d => number? rest (n * 10 + d)

/-- A number of a fixed count of digits. -/
def digits (count : Nat) : Part Nat := fun cs =>
  if (cs.take count).length = count then
    (number? (cs.take count) 0).map (·, cs.drop count)
  else none

/-- A number of two digits between two bounds. -/
def pair (least greatest : Nat) : Part Nat := fun cs =>
  (digits 2 cs).bind fun (n, rest) => if least ≤ n ∧ n ≤ greatest then some (n, rest) else none

/-- A year: four digits, or a sign and six digits. -/
def year : Part Int
  | '+' :: cs => (digits 6 cs).bind fun (n, rest) =>
      if n ≤ 9999 then some ((n : Int), rest) else none
  | '-' :: cs => (digits 6 cs).bind fun (n, rest) =>
      if 1 ≤ n ∧ n ≤ 9999 then some (-(n : Int), rest) else none
  | cs => (digits 4 cs).map fun (n, rest) => ((n : Int), rest)

/-- The dash between the parts of a date, which all have it or none. -/
def dash (dashed : Bool) : List Char → Option (List Char)
  | '-' :: rest => if dashed then some rest else none
  | rest => if dashed then none else some rest

/-- A date. -/
def date : Part Date := fun cs => do
  let (year, cs) ← year cs
  let dashed := cs.head? = some '-'
  let cs ← dash dashed cs
  let (month, cs) ← pair 1 12 cs
  let cs ← dash dashed cs
  let (day, cs) ← pair 1 31 cs
  if (Date.mk year month day).isValid then some (⟨year, month, day⟩, cs) else none

/-- What follows the separator before a further part of a time, if there is such a part. -/
def further? (colons : Bool) (cs : List Char) : Option (List Char) :=
  match colons, cs with
  | true, ':' :: rest => some rest
  | true, _ => none
  | false, a :: b :: _ =>
      if (Number.digitValue? a).isSome ∧ (Number.digitValue? b).isSome then some cs else none
  | false, _ => none

/-- The nanoseconds of a fraction of a second. -/
def fraction : Part Nat
  | c :: cs =>
      if c = '.' ∨ c = ',' then
        let spelled := cs.takeWhile fun d => (Number.digitValue? d).isSome
        let count := spelled.length
        if 1 ≤ count ∧ count ≤ 9 then
          (number? spelled 0).map fun n => (n * Nat.pow 10 (9 - count), cs.drop count)
        else none
      else some (0, c :: cs)
  | [] => some (0, [])

/-- A time of the day in seconds and nanoseconds.  A leap second counts as the second before. -/
def clock : Part (Nat × Nat) := fun cs => do
  let (hour, cs) ← pair 0 23 cs
  let colons := cs.head? = some ':'
  match further? colons cs with
  | none => some ((hour * 3600, 0), cs)
  | some cs =>
      let (minute, cs) ← pair 0 59 cs
      match further? colons cs with
      | none => some ((hour * 3600 + minute * 60, 0), cs)
      | some cs =>
          let (second, cs) ← pair 0 60 cs
          let (nanoseconds, cs) ← fraction cs
          some ((hour * 3600 + minute * 60 + min second 59, nanoseconds), cs)

/-- The size of an offset from UTC in seconds: hours, and possibly minutes and seconds.  A fraction
is rounded. -/
def offsetSize (seconds : Bool) : Part Nat := fun cs => do
  let (hour, cs) ← pair 0 25 cs
  let colons := cs.head? = some ':'
  match further? colons cs with
  | none => some (hour * 3600, cs)
  | some cs =>
      let (minute, cs) ← pair 0 59 cs
      match if seconds then further? colons cs else none with
      | none => some (hour * 3600 + minute * 60, cs)
      | some cs =>
          let (second, cs) ← pair 0 59 cs
          let (nanoseconds, cs) ← fraction cs
          let up := if 500000000 ≤ nanoseconds then 1 else 0
          some (hour * 3600 + minute * 60 + second + up, cs)

/-- An offset from UTC in seconds. -/
def offset : Part Int
  | 'Z' :: cs | 'z' :: cs => some (0, cs)
  | '+' :: cs => (offsetSize true cs).map fun (n, rest) => ((n : Int), rest)
  | '-' :: cs => (offsetSize true cs).map fun (n, rest) => (-(n : Int), rest)
  | _ => none

/-- A letter of the ASCII alphabet. -/
def isLetter (c : Char) : Bool :=
  ('a' ≤ c && c ≤ 'z') || ('A' ≤ c && c ≤ 'Z')

/-- A digit. -/
def isDigit (c : Char) : Bool :=
  '0' ≤ c && c ≤ '9'

/-- Whether a list of characters has a first one and the rest is of a kind. -/
def isWord (first rest : Char → Bool) : List Char → Bool
  | [] => false
  | c :: cs => first c && cs.all rest

/-- The characters up to a separator, in pieces. -/
def pieces (separator : Char) : List Char → List (List Char)
  | [] => [[]]
  | c :: cs =>
      match pieces separator cs with
      | [] => [[c]]
      | piece :: others => if c = separator then [] :: piece :: others else (c :: piece) :: others

/-- Whether the content of an annotation is the name of a time zone. -/
def isZoneName (cs : List Char) : Bool :=
  (pieces '/' cs).all <| isWord (fun c => isLetter c || c == '_' || c == '.')
    fun c => isLetter c || isDigit c || c == '_' || c == '.' || c == '+' || c == '-'

/-- Whether the content of an annotation is an offset from UTC. -/
def isZoneOffset : List Char → Bool
  | '+' :: cs | '-' :: cs => (offsetSize false cs).any fun (_, rest) => rest.isEmpty
  | _ => false

/-- Whether the content of an annotation is a key with values. -/
def isKeyed (cs : List Char) : Bool :=
  let key := cs.takeWhile (· ≠ '=')
  match cs.drop key.length with
  | '=' :: values =>
      isWord (fun c => ('a' ≤ c && c ≤ 'z') || c == '_')
        (fun c => ('a' ≤ c && c ≤ 'z') || isDigit c || c == '_' || c == '-') key &&
      (pieces '-' values).all (isWord (fun c => isLetter c || isDigit c)
        fun c => isLetter c || isDigit c)
  | _ => false

/-- Whether the content of an annotation is a time zone, which may be marked as critical. -/
def isZone : List Char → Bool
  | '!' :: cs => isZoneName cs || isZoneOffset cs
  | cs => isZoneName cs || isZoneOffset cs

/-- Whether characters are annotations in brackets: at most one time zone, which comes first, and
keys with values.  Inside of brackets the content so far is kept in reverse. -/
def areAnnotations (zoneAllowed : Bool) : Option (List Char) → List Char → Bool
  | none, [] => true
  | some _, [] => false
  | none, c :: cs => c == '[' && areAnnotations zoneAllowed (some []) cs
  | some content, c :: cs =>
      if c = ']' then
        (isKeyed content.reverse || (zoneAllowed && isZone content.reverse)) &&
          areAnnotations false none cs
      else areAnnotations zoneAllowed (some (c :: content)) cs

end Stamp

/-- The first second that a time stamp can name. -/
def firstSecond : Int := -377705023201

/-- The last second that a time stamp can name. -/
def lastSecond : Int := 253402207200

/-- The instant that a time stamp names. -/
def read? (s : String) : Option Instant := do
  let (date, cs) ← Stamp.date s.toList
  match cs with
  | separator :: cs =>
      if separator = 'T' ∨ separator = 't' ∨ separator = ' ' then
        let ((second, nanosecond), cs) ← Stamp.clock cs
        let (offset, cs) ← Stamp.offset cs
        let total := date.toDay * daySeconds + second - offset
        if Stamp.areAnnotations true none cs ∧ firstSecond ≤ total ∧ total ≤ lastSecond then
          some ⟨total * Instant.second + nanosecond⟩
        else none
      else none
  | [] => none

end TopicOperator.Instant
