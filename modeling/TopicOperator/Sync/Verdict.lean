import TopicOperator.Sync.Snapshot
import TopicOperator.Topic.Parameters

/-!
# Verdicts

What has to change at a remote topic so that it matches its parameters: the attributes to set, with
their new values, the tags to remove and the tags to add.  A tag whose value differs is removed
first and then added.
-/

namespace TopicOperator

/-- The tags that have to change. -/
structure TagDiff where
  toAdd : TextMap String
  toRemove : TextMap String
deriving DecidableEq

/-- The value to set for each attribute that has to change. -/
abbrev AttributeDiff := Attribute → Option String

/-- Everything that has to change. -/
structure Verdict where
  attributes : AttributeDiff
  tags : TagDiff

namespace TagDiff

/-- Whether no tag has to change. -/
def isEmpty (diff : TagDiff) : Bool :=
  diff.toAdd.isEmpty && diff.toRemove.isEmpty

/-- The keys of the tags to remove, in order. -/
def keysToRemove (diff : TagDiff) : List String := diff.toRemove.keys

/-- The tags to add, in the order of their keys. -/
def tagsToAdd (diff : TagDiff) : List Tag := Tag.ofMap diff.toAdd

/-- What is left to compare and what has to change so far, after one observed tag was seen. -/
def step (state : TextMap String × TagDiff) (observed : String × String) :
    TextMap String × TagDiff :=
  let (pending, diff) := state
  let (key, value) := observed
  match pending.get? key with
  | none => (pending, { diff with toRemove := diff.toRemove.insert key value })
  | some desired =>
      if Text.equalCaseless desired value then
        (pending.erase key, diff)
      else
        (pending.erase key,
          { toAdd := diff.toAdd.insert key desired
            toRemove := diff.toRemove.insert key value })

/-- Compares declared tags with observed ones.  What is declared and was not seen is added; what was
seen and is not declared is removed. -/
def compute (desired : Option (TextMap String)) (observed : List Tag) : TagDiff :=
  let (pending, diff) :=
    (Tag.collapse observed).entries.foldl step (desired.getD .empty, ⟨.empty, .empty⟩)
  { diff with toAdd := diff.toAdd.insertAll pending.entries }

end TagDiff

namespace AttributeDiff

/-- The attributes to set and their values, in the order of setting. -/
def toList (diff : AttributeDiff) : List (Attribute × String) :=
  Attribute.all.filterMap fun a => (diff a).map (a, ·)

/-- Whether no attribute has to change. -/
def isEmpty (diff : AttributeDiff) : Bool :=
  diff.toList.isEmpty

/-- Compares the settings of all attributes with what is reported. -/
def compute (p : Parameters) (attributes : ObservedAttributes) : AttributeDiff := fun a =>
  if p.inSync attributes a then none else some (p.setting a).canonical

end AttributeDiff

namespace Verdict

/-- Compares parameters with a snapshot. -/
def compute (p : Parameters) (snapshot : Snapshot) : Verdict where
  attributes := .compute p snapshot.attributes
  tags := .compute p.tags snapshot.tags

/-- Whether nothing has to change. -/
def isEmpty (verdict : Verdict) : Bool :=
  verdict.attributes.isEmpty && verdict.tags.isEmpty

end Verdict

end TopicOperator
