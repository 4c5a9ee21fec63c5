import TopicOperator.Json.Pointer

/-!
# Patches

Lists of operations on a JSON value.  They are carried out one after the other; if one fails, the
value stays as it was.
-/

namespace TopicOperator.Json

/-- An operation of a patch. -/
inductive PatchStep where
  /-- The part at a place must be a value, where a missing part counts as null. -/
  | test (path : String) (value : Json)
  | add (path : String) (value : Json)
  | remove (path : String)

namespace PatchStep

/-- Adds a member, or an item before a position or at the end. -/
def addTo (value parent : Json) (name : String) : Option Json :=
  match parent with
  | .object members => some (.object (put name value members))
  | .list items =>
      if name = "-" then some (.list (items ++ [value]))
      else
        (Pointer.position? name).bind fun i =>
          if i ≤ items.length then some (.list (items.take i ++ value :: items.drop i)) else none
  | _ => none

/-- Removes a member or an item. -/
def removeFrom (parent : Json) (name : String) : Option Json :=
  match parent with
  | .object members => (find name members).map fun _ => .object (without name members)
  | .list items =>
      (Pointer.position? name).bind fun i =>
        if i < items.length then some (.list (items.eraseIdx i)) else none
  | _ => none

/-- A value after an operation, if it succeeds. -/
def run? : PatchStep → Json → Option Json
  | test path expected, value =>
      (Pointer.ofText? path).bind fun place =>
        if same expected ((at? place value).getD .null) then some value else none
  | add path new, value =>
      (Pointer.ofText? path).bind fun
        | [] => some new
        | place => changeAt? (addTo new) place value
  | remove path, value =>
      (Pointer.ofText? path).bind fun place => changeAt? removeFrom place value

/-- The written form of an operation. -/
def toJson : PatchStep → Json
  | test path value => .object [("op", .text "test"), ("path", .text path), ("value", value)]
  | add path value => .object [("op", .text "add"), ("path", .text path), ("value", value)]
  | remove path => .object [("op", .text "remove"), ("path", .text path)]

end PatchStep

/-- A value after a patch, if all operations succeed. -/
def patch? (steps : List PatchStep) (value : Json) : Option Json :=
  steps.foldlM (fun value step => step.run? value) value

end TopicOperator.Json
