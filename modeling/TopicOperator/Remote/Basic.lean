import TopicOperator.Remote.Error
import TopicOperator.Remote.Mutation
import TopicOperator.Topic.Observation

/-!
# The remote service

The topics that the remote service keeps, and the log of the changing calls that it received.  A
failure may be announced for one of the calls to come: that call is logged but changes nothing.  The
values that the service computes itself appear only when attributes are read.
-/

namespace TopicOperator

/-- The state of the remote service. -/
structure Remote where
  topics : TextMap RemoteTopic := .empty
  /-- The changing calls received, in order. -/
  calls : List Mutation := []
  /-- The place in the log at which a call fails. -/
  failAt : Option Nat := none
deriving DecidableEq

namespace Remote

/-- The delivery policy in force where none is set. -/
def defaultDeliveryPolicy : String :=
  "\x7b\"http\":\x7b\"defaultHealthyRetryPolicy\":\x7b\"minDelayTarget\":20," ++
    "\"maxDelayTarget\":20,\"numRetries\":3,\"numMaxDelayRetries\":0,\"numNoDelayRetries\":0," ++
    "\"numMinDelayRetries\":0,\"backoffFunction\":\"linear\"\x7d," ++
    "\"disableSubscriptionOverrides\":false,\"defaultRequestPolicy\":" ++
    "\x7b\"headerContentType\":\"text/plain; charset=UTF-8\"\x7d\x7d\x7d"

/-- The delivery policy in force for a topic. -/
def effectivePolicy (topic : RemoteTopic) : String :=
  ((topic.attributes.get? Attribute.deliveryPolicy.name).filter fun s => !s.isEmpty).getD
    defaultDeliveryPolicy

/-- The attributes of a topic as they are read. -/
def report (identity : String) (topic : RemoteTopic) : ObservedAttributes :=
  topic.attributes.insertAll [
    (ReportedName.topicArn, identity),
    (ReportedName.subscriptionsConfirmed, "0"),
    (ReportedName.subscriptionsPending, "0"),
    (ReportedName.subscriptionsDeleted, "0"),
    (ReportedName.effectiveDeliveryPolicy, effectivePolicy topic)]

/-- Reads the attributes of a topic. -/
def fetchAttributes (remote : Remote) (identity : String) : Except RemoteError ObservedAttributes :=
  match remote.topics.get? identity with
  | some topic => .ok (report identity topic)
  | none => .error (.notFound identity)

/-- Reads the tags of a topic. -/
def fetchTags (remote : Remote) (identity : String) : Except RemoteError (List Tag) :=
  match remote.topics.get? identity with
  | some topic => .ok topic.tags
  | none => .error (.notFound identity)

/-- The topics with the entry of an identity set or removed. -/
def replace (topics : TextMap RemoteTopic) (identity : String) :
    Option RemoteTopic → TextMap RemoteTopic
  | some topic => topics.insert identity topic
  | none => topics.erase identity

/-- The topics after a changing call, with the identity that it concerned. -/
def change (region : String) (m : Mutation) (topics : TextMap RemoteTopic) :
    Except RemoteError String × TextMap RemoteTopic :=
  let identity := m.target region
  match m.result? (topics.get? identity) with
  | some result => (.ok identity, replace topics identity result)
  | none => (.error (.notFound identity), topics)

/-- Receives a changing call.  It is logged in any case, and carried out unless a failure was
announced for it. -/
def mutate (remote : Remote) (region : String) (m : Mutation) :
    Except RemoteError String × Remote :=
  let index := remote.calls.length
  let logged := { remote with calls := remote.calls ++ [m] }
  if remote.failAt = some index then
    (.error (.transport m.operation.name (.injected index)), { logged with failAt := none })
  else
    let (answer, topics) := change region m remote.topics
    (answer, { logged with topics := topics })

/-- Empties the log. -/
def clearCalls (remote : Remote) : Remote :=
  { remote with calls := [] }

/-- Announces a failure of the changing call that comes after some others. -/
def failOnCall (remote : Remote) (n : Nat) : Remote :=
  { remote with failAt := some (remote.calls.length + n) }

/-- Whether there is a topic of an identity. -/
def contains (remote : Remote) (identity : String) : Bool :=
  remote.topics.contains identity

/-- Changes a topic from outside, without a call. -/
def drift (remote : Remote) (identity : String) (f : RemoteTopic → RemoteTopic) :
    Except RemoteError Unit × Remote :=
  match remote.topics.get? identity with
  | some topic => (.ok (), { remote with topics := remote.topics.insert identity (f topic) })
  | none => (.error (.notFound identity), remote)

/-- Sets an attribute from outside. -/
def driftAttribute (remote : Remote) (identity name value : String) :
    Except RemoteError Unit × Remote :=
  remote.drift identity fun topic => topic.setAttribute name value

/-- Sets the tags from outside. -/
def driftTags (remote : Remote) (identity : String) (tags : List Tag) :
    Except RemoteError Unit × Remote :=
  remote.drift identity fun topic => { topic with tags := tags }

end Remote

end TopicOperator
