import TopicOperator.Topic.Condition
import TopicOperator.Topic.Observation

/-!
# Status of a topic

The conditions of a topic and the values observed at the remote service.
-/

namespace TopicOperator

/-- Status of a topic. -/
structure Status where
  conditions : List Condition := []
  atProvider : Observation := {}
deriving DecidableEq, Repr

/-- The status after some conditions were requested and, if the remote topic was read, with what was
observed there. -/
def Status.next (now : Instant) (current : Option Status) (updates : List Condition)
    (observation : Option Observation) : Status :=
  let current := current.getD {}
  { conditions := Condition.advance now current.conditions updates
    atProvider := observation.getD current.atProvider }

end TopicOperator
