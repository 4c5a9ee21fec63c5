import TopicOperator.Topic.Attribute
import TopicOperator.Topic.Tag

/-!
# Snapshots of a remote topic

What one pass reads of a remote topic: its reported attributes and its tags.
-/

namespace TopicOperator

/-- What was read of a remote topic. -/
structure Snapshot where
  attributes : ObservedAttributes
  tags : List Tag
deriving DecidableEq

end TopicOperator
