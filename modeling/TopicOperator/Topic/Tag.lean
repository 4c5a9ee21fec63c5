import TopicOperator.TextMap.Basic

/-!
# Tags

Tags as the remote service lists them: pairs of a key and a value in a list.  The service never
promises that keys are different, so a list is compared through the map in which the last value of
a key counts.
-/

namespace TopicOperator

/-- A tag of a remote topic. -/
structure Tag where
  key : String
  value : String
deriving DecidableEq, Repr

namespace Tag

/-- A tag as an entry of a map. -/
def entry (tag : Tag) : String × String := (tag.key, tag.value)

/-- The tag of an entry. -/
def ofEntry (e : String × String) : Tag := ⟨e.1, e.2⟩

/-- The map of a list of tags, in which the last value of a key counts. -/
def collapse (tags : List Tag) : TextMap String :=
  .ofList (tags.map entry)

/-- The tags of a map, in the order of their keys. -/
def ofMap (map : TextMap String) : List Tag :=
  map.entries.map ofEntry

end Tag

end TopicOperator
