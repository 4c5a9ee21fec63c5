import TopicOperator.Number.Integer
import TopicOperator.Text.Blank

/-!
# Reports

The text of an error together with its causes.  A message often ends by repeating its cause, so each
message loses what the next one says again, with the blanks and colons before it.  Messages that are
empty then are left out, and a note at the end tells that something was removed.
-/

namespace TopicOperator.Report

/-- A list without the copies of another one at its start. -/
def dropCopies (fuel : Nat) (copy cs : List Char) : List Char :=
  match fuel with
  | 0 => cs
  | fuel + 1 =>
      if copy.isEmpty || !copy.isPrefixOf cs then cs
      else dropCopies fuel copy (cs.drop copy.length)

/-- A message without the copies of its cause at the end, the blanks before them, and the colons
before those. -/
def cleaned (message cause : String) : String :=
  let reversed := message.toList.reverse
  let rest := dropCopies reversed.length cause.toList.reverse reversed
  String.ofList ((rest.dropWhile Text.isBlank).dropWhile (· = ':')).reverse

/-- A message in a report, and whether a part of it was removed. -/
structure Line where
  text : String
  shortened : Bool

/-- The lines of an error and its causes. -/
def lines : List String → List Line
  | [] => []
  | [last] => [⟨last, false⟩]
  | message :: cause :: rest =>
      let text := cleaned message cause
      ⟨text, text ≠ message⟩ :: lines (cause :: rest)

/-- A line with a mark if it was shortened. -/
def Line.marked (line : Line) : String :=
  line.text ++ if line.shortened then " *" else ""

/-- A cause with its number. -/
def numbered (number : Nat) (line : Line) : String :=
  let digits := Number.decimal number
  String.ofList (List.replicate (3 - digits.length) ' ') ++ digits ++ ": " ++ line.marked ++ "\n"

/-- The causes with their numbers, from a first one on. -/
def numberedFrom : Nat → List Line → List String
  | _, [] => []
  | n, line :: rest => numbered n line :: numberedFrom (n + 1) rest

/-- The heading over the causes. -/
def heading : List Line → String
  | [] => ""
  | [_] => "\nCaused by this error:\n"
  | _ => "\nCaused by these errors (recent errors listed first):\n"

/-- The note that something was removed. -/
def note (lines kept : List Line) : String :=
  let start := "\nNOTE: Some redundant information has been removed"
  let close := ". Set SNAFU_RAW_ERROR_MESSAGES=1 to disable this behavior.\n"
  if kept.any Line.shortened then start ++ " from the lines marked with *" ++ close
  else if kept.length < lines.length then start ++ close
  else ""

/-- The report of an error, given by its message and those of its causes. -/
def render (messages : List String) : String :=
  let all := lines messages
  let kept := all.filter fun line => !line.text.isEmpty
  match kept with
  | [] => note all kept
  | first :: causes =>
      first.marked ++ "\n" ++ heading causes ++ String.join (numberedFrom 1 causes) ++
        note all kept

end TopicOperator.Report
