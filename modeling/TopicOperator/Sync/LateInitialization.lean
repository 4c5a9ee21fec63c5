import TopicOperator.Sync.Snapshot
import TopicOperator.Topic.Parameters

/-!
# Late initialization

Parameters that were not declared are filled from the remote topic the first time it is read: texts
that are not empty, flags that can be read, and the tags if there are any.  What is declared is left
alone, an empty map of tags included.
-/

namespace TopicOperator.Parameters

/-- A reported text that is worth taking over. -/
def usableText (attributes : ObservedAttributes) (a : Attribute) : Option String :=
  (a.observed attributes).filter fun s => !s.isEmpty

/-- A reported flag that is worth taking over. -/
def usableFlag (attributes : ObservedAttributes) (a : Attribute) : Option Bool :=
  (a.observed attributes).bind readFlag

/-- The parameters that a snapshot suggests. -/
def ofSnapshot (region : String) (snapshot : Snapshot) : Parameters where
  region := region
  deliveryPolicy := usableText snapshot.attributes .deliveryPolicy
  displayName := usableText snapshot.attributes .displayName
  policy := usableText snapshot.attributes .policy
  fifoTopic := usableFlag snapshot.attributes .fifoTopic
  contentBasedDeduplication := usableFlag snapshot.attributes .contentBasedDeduplication
  kmsMasterKeyId := usableText snapshot.attributes .kmsMasterKeyId
  tags := if snapshot.tags.isEmpty then none else some (Tag.collapse snapshot.tags)

/-- The parameters with everything that is not declared taken from a snapshot. -/
def completedBy (p : Parameters) (snapshot : Snapshot) : Parameters :=
  p.fillFrom (ofSnapshot p.region snapshot)

/-- Whether a snapshot fills anything. -/
def gainsFrom (p : Parameters) (snapshot : Snapshot) : Bool :=
  p.completedBy snapshot ≠ p

end TopicOperator.Parameters
