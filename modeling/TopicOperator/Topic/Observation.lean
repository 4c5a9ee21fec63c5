import TopicOperator.Number.Integer
import TopicOperator.Topic.Attribute

/-!
# Observations

The values that the remote service computes for a topic: its identity, how many subscriptions it
has, and the delivery policy in force.  They are read from the reported attributes; a counter that
is not an integer of 64 bits and a text that is empty are left out.
-/

namespace TopicOperator

/-- Values computed by the remote service. -/
structure Observation where
  topicArn : Option String := none
  subscriptionsConfirmed : Option Int := none
  subscriptionsPending : Option Int := none
  subscriptionsDeleted : Option Int := none
  effectiveDeliveryPolicy : Option String := none
deriving DecidableEq, Repr

namespace ReportedName

/-- The identity of the topic. -/
def topicArn : String := "TopicArn"

/-- The number of confirmed subscriptions. -/
def subscriptionsConfirmed : String := "SubscriptionsConfirmed"

/-- The number of subscriptions waiting for confirmation. -/
def subscriptionsPending : String := "SubscriptionsPending"

/-- The number of deleted subscriptions. -/
def subscriptionsDeleted : String := "SubscriptionsDeleted"

/-- The delivery policy in force. -/
def effectiveDeliveryPolicy : String := "EffectiveDeliveryPolicy"

end ReportedName

namespace Observation

/-- A reported text that is not empty. -/
def text (attributes : ObservedAttributes) (name : String) : Option String :=
  (attributes.get? name).filter fun s => !s.isEmpty

/-- A reported text that is an integer of 64 bits. -/
def counter (attributes : ObservedAttributes) (name : String) : Option Int :=
  (attributes.get? name).bind Number.int64.read?

/-- What the reported attributes say about a topic. -/
def ofAttributes (attributes : ObservedAttributes) : Observation where
  topicArn := text attributes ReportedName.topicArn
  subscriptionsConfirmed := counter attributes ReportedName.subscriptionsConfirmed
  subscriptionsPending := counter attributes ReportedName.subscriptionsPending
  subscriptionsDeleted := counter attributes ReportedName.subscriptionsDeleted
  effectiveDeliveryPolicy := text attributes ReportedName.effectiveDeliveryPolicy

end Observation

end TopicOperator
