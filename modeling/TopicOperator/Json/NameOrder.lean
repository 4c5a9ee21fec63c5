import TopicOperator.Json.Value
import TopicOperator.TextMap.Basic

/-!
# Objects in the order of names

A value with the members of all its objects in ascending order of their names, one for each name.
-/

namespace TopicOperator.Json

mutual

/-- A value with its objects in the order of names. -/
def inNameOrder : Json → Json
  | .list items => .list (itemsInNameOrder items)
  | .object members => .object (membersInNameOrder members)
  | .null => .null
  | .bool b => .bool b
  | .number n => .number n
  | .text s => .text s

/-- Values with their objects in the order of names. -/
def itemsInNameOrder : List Json → List Json
  | [] => []
  | item :: rest => inNameOrder item :: itemsInNameOrder rest

/-- Members in the order of names; of several members of one name the first counts. -/
def membersInNameOrder : List (String × Json) → List (String × Json)
  | [] => []
  | (name, value) :: rest =>
      TextMap.insertEntry name (inNameOrder value) (membersInNameOrder rest)

end

theorem ascending_membersInNameOrder (members : List (String × Json)) :
    Ascending (membersInNameOrder members) := by
  induction members with
  | nil => simp [membersInNameOrder, Ascending]
  | cons first rest ih =>
      rw [membersInNameOrder]
      exact TextMap.ascending_insertEntry ih

end TopicOperator.Json
