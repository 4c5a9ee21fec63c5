import TopicOperator.Topic.Attribute
import TopicOperator.Topic.Tag

/-!
# Calls of the remote service

The operations of the remote service and its changing calls.  A changing call concerns exactly one
topic, and what it does to that topic is a function of the topic alone.
-/

namespace TopicOperator

/-- An operation of the remote service. -/
inductive Operation where
  | getTopicAttributes
  | listTags
  | createTopic
  | setTopicAttributes
  | untagResource
  | tagResource
  | deleteTopic
deriving DecidableEq, Repr

/-- The name of an operation. -/
def Operation.name : Operation → String
  | getTopicAttributes => "GetTopicAttributes"
  | listTags => "ListTagsForResource"
  | createTopic => "CreateTopic"
  | setTopicAttributes => "SetTopicAttributes"
  | untagResource => "UntagResource"
  | tagResource => "TagResource"
  | deleteTopic => "DeleteTopic"

/-- All operations. -/
def Operation.all : List Operation :=
  [getTopicAttributes, listTags, createTopic, setTopicAttributes, untagResource, tagResource,
    deleteTopic]

/-- The operation of a name. -/
def Operation.ofName? (s : String) : Option Operation :=
  all.find? fun o => o.name == s

/-- A topic as the remote service keeps it. -/
structure RemoteTopic where
  attributes : TextMap String := .empty
  tags : List Tag := []
deriving DecidableEq

/-- A changing call. -/
inductive Mutation where
  | create (name : String) (attributes : TextMap String) (tags : List Tag)
  | setAttribute (identity name value : String)
  | addTags (identity : String) (tags : List Tag)
  | removeTags (identity : String) (keys : List String)
  | delete (identity : String)
deriving DecidableEq

/-- The account that all topics belong to. -/
def accountId : String := "000000000000"

/-- The identity that a topic of some name gets in a region. -/
def identityFor (region name : String) : String :=
  "arn:aws:sns:" ++ region ++ ":" ++ accountId ++ ":" ++ name

namespace RemoteTopic

/-- Tags with one tag set, at the end and in place of all tags with its key. -/
def putTag (tags : List Tag) (tag : Tag) : List Tag :=
  tags.filter (·.key ≠ tag.key) ++ [tag]

/-- A topic with tags added one after the other. -/
def addTags (topic : RemoteTopic) (tags : List Tag) : RemoteTopic :=
  { topic with tags := tags.foldl putTag topic.tags }

/-- A topic without the tags of some keys. -/
def removeTags (topic : RemoteTopic) (keys : List String) : RemoteTopic :=
  { topic with tags := topic.tags.filter fun tag => !keys.contains tag.key }

/-- A topic with one attribute set. -/
def setAttribute (topic : RemoteTopic) (name value : String) : RemoteTopic :=
  { topic with attributes := topic.attributes.insert name value }

end RemoteTopic

namespace Mutation

/-- The operation of a changing call. -/
def operation : Mutation → Operation
  | create .. => .createTopic
  | setAttribute .. => .setTopicAttributes
  | addTags .. => .tagResource
  | removeTags .. => .untagResource
  | delete .. => .deleteTopic

/-- The identity of the topic that a changing call in a region concerns. -/
def target (region : String) : Mutation → String
  | create name .. => identityFor region name
  | setAttribute identity .. | addTags identity _ | removeTags identity _ | delete identity =>
      identity

/-- What a changing call is addressed to: a name when it creates, else an identity. -/
def address : Mutation → String
  | create name .. => name
  | setAttribute identity .. | addTags identity _ | removeTags identity _ | delete identity =>
      identity

/-- The topic after a changing call, where there may be none before and after.  A call that needs a
topic where there is none has no result.  Creating a topic that exists leaves it as it is. -/
def result? : Mutation → Option RemoteTopic → Option (Option RemoteTopic)
  | create _ attributes tags, none => some (some ⟨attributes, tags⟩)
  | create _ _ _, some topic => some (some topic)
  | setAttribute _ name value, some topic => some (some (topic.setAttribute name value))
  | addTags _ tags, some topic => some (some (topic.addTags tags))
  | removeTags _ keys, some topic => some (some (topic.removeTags keys))
  | delete _, some _ => some none
  | _, none => none

end Mutation

end TopicOperator
