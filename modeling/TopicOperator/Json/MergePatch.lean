import TopicOperator.Json.Value

/-!
# Merge patches

How one JSON value changes another one.  An object changes the members that it names, removing those
that it sets to null; any other value replaces the target.
-/

namespace TopicOperator.Json

mutual

/-- A value after a merge patch. -/
def mergePatch (target : Json) : Json → Json
  | .object changes => .object (mergeMembers target.members changes)
  | .null => .null
  | .bool b => .bool b
  | .number n => .number n
  | .text s => .text s
  | .list items => .list items

/-- Members after the changes of a merge patch, one after the other. -/
def mergeMembers (members : List (String × Json)) :
    List (String × Json) → List (String × Json)
  | [] => members
  | (name, change) :: rest =>
      mergeMembers
        (match change with
          | .null => without name members
          | value => put name (mergePatch ((find name members).getD .null) value) members)
        rest

end

end TopicOperator.Json
