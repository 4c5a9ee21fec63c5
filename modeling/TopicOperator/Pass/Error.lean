import TopicOperator.Remote.Error
import TopicOperator.Store.Error
import TopicOperator.Text.Report
import TopicOperator.Time.Duration
import TopicOperator.Topic.Attribute

/-!
# Failures of a pass

Why a pass over a topic fails.  Every error names what was being done, and carries the failure of the
remote service or of the store that stopped it.
-/

namespace TopicOperator

/-- Why a pass fails. -/
inductive PassError where
  | fetchAttributes (identity : String) (cause : RemoteError)
  | fetchTags (identity : String) (cause : RemoteError)
  | createTopic (name : String) (cause : RemoteError)
  | recordExternalName (identity : String) (cause : StoreError)
  | updateAttribute (which : Attribute) (cause : RemoteError)
  | removeTags (keys : List String) (cause : RemoteError)
  | addTags (cause : RemoteError)
  | deleteTopic (identity : String) (cause : RemoteError)
  | persistParameters (cause : StoreError)
  | persistStatus (cause : StoreError)
  | cancelled (operation : String)
  | timedOut (operation : String) (limit : Duration)
deriving DecidableEq, Repr

namespace PassError

/-- The name of the kind of an error. -/
def category : PassError → String
  | fetchAttributes _ _ => "FetchAttributes"
  | fetchTags _ _ => "FetchTags"
  | createTopic _ _ => "CreateTopic"
  | recordExternalName _ _ => "RecordExternalName"
  | updateAttribute _ _ => "UpdateAttribute"
  | removeTags _ _ => "RemoveTags"
  | addTags _ => "AddTags"
  | deleteTopic _ _ => "DeleteTopic"
  | persistParameters _ => "PersistParameters"
  | persistStatus _ => "PersistStatus"
  | cancelled _ => "Cancelled"
  | timedOut _ _ => "TimedOut"

/-- The wording of an error. -/
def message : PassError → String
  | fetchAttributes identity _ => "failed to fetch the attributes of topic " ++ Text.quoted identity
  | fetchTags identity _ => "failed to fetch the tags of topic " ++ Text.quoted identity
  | createTopic name _ => "failed to create topic " ++ Text.quoted name
  | recordExternalName identity _ =>
      "failed to record external name " ++ Text.quoted identity ++ " of the created topic"
  | updateAttribute which _ => "failed to update attribute " ++ which.name
  | removeTags keys _ => "failed to remove tags " ++ Text.quotedList keys
  | addTags _ => "failed to add tags"
  | deleteTopic identity _ => "failed to delete topic " ++ Text.quoted identity
  | persistParameters _ => "failed to persist late initialized parameters"
  | persistStatus _ => "failed to persist status"
  | cancelled operation => operation ++ " was cancelled"
  | timedOut operation limit => operation ++ " did not finish within " ++ limit.text

/-- The wordings of the causes of an error. -/
def causes : PassError → List String
  | fetchAttributes _ cause | fetchTags _ cause | createTopic _ cause | updateAttribute _ cause
  | removeTags _ cause | addTags cause | deleteTopic _ cause => cause.messages
  | recordExternalName _ cause | persistParameters cause | persistStatus cause => cause.messages
  | cancelled _ | timedOut _ _ => []

/-- The wordings of an error and its causes. -/
def messages (e : PassError) : List String := e.message :: e.causes

/-- The report of an error. -/
def report (e : PassError) : String := Report.render e.messages

/-- Whether the topic could not be created. -/
def isCreateTopic : PassError → Bool
  | createTopic _ _ => true
  | _ => false

end PassError

end TopicOperator
