import TopicOperator.Json.Value
import TopicOperator.Number.Integer

/-!
# Pointers

Places inside a JSON value: a path of names and positions, each after a slash.  A slash inside a name
is spelled `~1`, a tilde `~0`.
-/

namespace TopicOperator.Json

/-- A place inside a value: the names and positions on the way. -/
abbrev Pointer := List String

namespace Pointer

/-- The characters of a name, spelled out. -/
def unescape : List Char → List Char
  | '~' :: '1' :: rest => '/' :: unescape rest
  | '~' :: '0' :: rest => '~' :: unescape rest
  | c :: rest => c :: unescape rest
  | [] => []

/-- The pieces between slashes. -/
def pieces : List Char → List (List Char)
  | [] => [[]]
  | c :: rest =>
      match pieces rest with
      | [] => [[c]]
      | piece :: others => if c = '/' then [] :: piece :: others else (c :: piece) :: others

/-- The place that a text names.  A text that is not empty starts with a slash. -/
def ofText? (s : String) : Option Pointer :=
  match s.toList with
  | [] => some []
  | '/' :: rest => some ((pieces rest).map fun piece => String.ofList (unescape piece))
  | _ => none

/-- A position in a list: digits without a zero in front. -/
def position? (name : String) : Option Nat :=
  match name.toList with
  | '+' :: _ => none
  | '0' :: _ :: _ => none
  | _ => (Number.word64.read? name).map Int.toNat

end Pointer

/-- The part of a value at a place. -/
def at? : Pointer → Json → Option Json
  | [], value => some value
  | name :: rest, .object members => (find name members).bind (at? rest)
  | name :: rest, .list items =>
      ((Pointer.position? name).bind fun i => items[i]?).bind (at? rest)
  | _ :: _, _ => none

/-- Changes the part of a value at a place that is reached by the path up to its last name.  The
change is given the parent and the last name. -/
def changeAt? (change : Json → String → Option Json) : Pointer → Json → Option Json
  | [], _ => none
  | [name], value => change value name
  | name :: rest, .object members =>
      (find name members).bind fun inner =>
        (changeAt? change rest inner).map fun inner => .object (put name inner members)
  | name :: rest, .list items =>
      (Pointer.position? name).bind fun i =>
        (items[i]?).bind fun inner =>
          (changeAt? change rest inner).map fun inner => .list (items.set i inner)
  | _ :: _ :: _, _ => none

end TopicOperator.Json
