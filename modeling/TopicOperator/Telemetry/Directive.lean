import TopicOperator.Telemetry.Verbosity
import TopicOperator.Text.Alphanumeric
import TopicOperator.Text.Blank
import TopicOperator.Text.Bytes
import TopicOperator.Text.Pattern

/-!
# Directives of a filter

A directive says how detailed some events may be.  It is a verbosity, or a target with or without a
verbosity behind an equals sign; between them brackets may hold the name of a span, or in braces the
name of a field, perhaps with a value.  The form is checked on the text without the blanks around it,
but its parts are taken from the text as it is written, at the same places.
-/

namespace TopicOperator

/-- A condition on a field of an event. -/
structure FieldCondition where
  name : String
  /-- What the value of the field should look like. -/
  value : Option String := none
deriving DecidableEq, Repr

/-- A directive of a filter. -/
structure Directive where
  /-- What the targets of the events start with. -/
  target : Option String := none
  /-- The name of the spans that the events are in. -/
  span : Option String := none
  field : Option FieldCondition := none
  verbosity : Verbosity := .trace
deriving DecidableEq, Repr

namespace FieldCondition

/-- Whether characters are a number: digits with a point among them, and an exponent, or a name. -/
def isNumeral (cs : List Char) : Bool :=
  let fraction := (cs.dropWhile Char.isDigit).dropWhile (· = '.')
  let digits := cs.takeWhile Char.isDigit ++ fraction.takeWhile Char.isDigit
  let points := (cs.dropWhile Char.isDigit).takeWhile (· = '.')
  let exponent := match fraction.dropWhile Char.isDigit with
    | [] => true
    | e :: '+' :: rest | e :: '-' :: rest => e.toLower = 'e' && isCount rest
    | e :: rest => e.toLower = 'e' && isCount rest
  !digits.isEmpty && points.length ≤ 1 && exponent ||
    ["inf", "infinity", "nan"].contains (String.ofList (cs.map Char.toLower))
where
  /-- Whether characters are digits. -/
  isCount (cs : List Char) : Bool := !cs.isEmpty && cs.all Char.isDigit

/-- Whether a field may be compared with characters: a number or a regular expression.  Every number
is one, but for those with a plus sign. -/
def isValue : List Char → Bool
  | '+' :: cs => isNumeral cs
  | cs => Text.Pattern.isWellFormed cs

/-- The condition that a text stands for. -/
def ofText? (s : String) : Option FieldCondition :=
  match s.toList.splitOn '=' with
  | [] | [[]] => none
  | [name] => some { name := String.ofList name }
  | name :: value :: _ =>
      if isValue value then
        some { name := String.ofList name, value := some (String.ofList value) }
      else none

end FieldCondition

namespace Directive

/-- Whether a directive may start with a character. -/
def startsWell (c : Char) : Bool :=
  c == '-' || c == ':' || c == '_' || c == '[' || Text.isAlphanumeric c

/-- The verbosity from a place on, where nothing stands for all levels. -/
def verbosityFrom? (written : List Char) (place : Nat) : Option Verbosity :=
  let word := Text.fromPlace written place
  if word.isEmpty then some .trace else Verbosity.ofText? word

/-- The verbosity behind brackets. -/
def verbosityBehind? (written : List Char) (place : Nat) : List Char → Option Verbosity
  | [] => some .trace
  | '=' :: _ => verbosityFrom? written (place + 1)
  | _ => none

/-- The directive whose field starts at a place. -/
def ofBraces? (written : List Char) (place : Nat) (rest : List Char) : Option Directive :=
  let stop := place + Text.byteCount (rest.takeWhile (· ≠ '}'))
  match rest.dropWhile (· ≠ '}') with
  | '}' :: ']' :: rest => do
      let field ← FieldCondition.ofText? (Text.between written place stop)
      let verbosity ← verbosityBehind? written (stop + 2) rest
      return { field := some field, verbosity := verbosity }
  | _ => none

/-- The directive whose brackets hold what starts at a place. -/
def ofBrackets? (written : List Char) (place : Nat) (rest : List Char) : Option Directive :=
  let name := rest.takeWhile fun c => c ≠ ']' ∧ c ≠ '{'
  let stop := place + Text.byteCount name
  let span := Text.between written place stop
  match rest.dropWhile fun c => c ≠ ']' ∧ c ≠ '{' with
  | ']' :: rest => do
      let verbosity ← verbosityBehind? written (stop + 1) rest
      return { span := some span, verbosity := verbosity }
  | '{' :: rest =>
      (ofBraces? written (stop + 1) rest).map fun d =>
        { d with span := if name.isEmpty then none else some span }
  | _ => none

/-- The directive of a word, which is a verbosity or else a target. -/
def ofWord (word : String) : Directive :=
  match Verbosity.ofText? word with
  | some v => { verbosity := v }
  | none => { target := some word }

/-- The directive that a text stands for. -/
def ofText? (s : String) : Option Directive :=
  let written := s.toList
  let seen := (Text.trim s).toList
  let word := seen.takeWhile fun c => c ≠ '=' ∧ c ≠ '['
  let stop := Text.byteCount word
  let target := Text.between written 0 stop
  if (seen.head?.map startsWell).getD false then
    match seen.dropWhile fun c => c ≠ '=' ∧ c ≠ '[' with
    | [] => some (ofWord s)
    | '[' :: rest =>
        (ofBrackets? written (stop + 1) rest).map fun d =>
          { d with target := if word.isEmpty then none else some target }
    | _ :: _ =>
        (verbosityFrom? written (stop + 1)).map fun v =>
          { target := some target, verbosity := v }
  else none

/-- Whether a directive can decide about events outside of spans: it names no span, and no value of a
field. -/
def isStatic (d : Directive) : Bool :=
  d.span.isNone && (d.field.bind (·.value)).isNone

/-- Whether a directive decides about an event. -/
def concerns (d : Directive) (t : TargetedEvent) : Bool :=
  d.isStatic &&
    (match d.target with
      | none => true
      | some start => start.toList.isPrefixOf t.target.toList) &&
    match d.field with
      | none => true
      | some field => t.event.fieldNames.contains field.name

/-- How specific the target of a directive is. -/
def weight (d : Directive) : Nat :=
  match d.target with
  | none => 0
  | some start => start.utf8ByteSize + 1

/-- Whether a directive gives way to a later one: to one with a target of at least the same length,
and of the same length only to one whose field is named no earlier. -/
def yieldsTo (d later : Directive) : Bool :=
  d.weight < later.weight || d.weight == later.weight &&
    match d.field, later.field with
      | none, _ => true
      | some _, none => false
      | some field, some other => field.name ≤ other.name

end Directive

end TopicOperator
