import TopicOperator.Topic.Metadata
import TopicOperator.Topic.Parameters
import TopicOperator.Topic.Status

/-!
# Topics

The stored object of a topic, and the places of such objects at the API server.  The identity that
the remote service gave to a topic is kept in an annotation.  An empty annotation, or one that repeats
the name of the object, is a placeholder and stands for no remote topic.
-/

namespace TopicOperator

/-- What a topic declares. -/
structure Spec where
  forProvider : Parameters
deriving DecidableEq

/-- A stored topic. -/
structure Topic where
  metadata : Metadata := {}
  spec : Spec
  status : Option Status := none

namespace Topic

/-- The annotation that holds the identity of the remote topic. -/
def externalNameKey : String := "converge.dev/external-name"

/-- The group of the resource. -/
def group : String := "sns.converge.dev"

/-- The version of the resource. -/
def version : String := "v1alpha1"

/-- The kind of the resource. -/
def kind : String := "Topic"

/-- The plural name of the resource. -/
def plural : String := "topics"

/-- The name of the resource definition. -/
def definitionName : String := plural ++ "." ++ group

/-- The group and version of the resource. -/
def apiVersion : String := group ++ "/" ++ version

/-- The name of a topic, or else the start of the name to be given, or else nothing. -/
def anyName (topic : Topic) : String := topic.metadata.anyName

/-- The declared state of a topic. -/
def parameters (topic : Topic) : Parameters := topic.spec.forProvider

/-- A topic with other declared state. -/
def withParameters (topic : Topic) (parameters : Parameters) : Topic :=
  { topic with spec := ⟨parameters⟩ }

/-- The identity of the remote topic, if one was recorded. -/
def externalName (topic : Topic) : Option String :=
  (topic.metadata.annotationMap.get? externalNameKey).filter fun name =>
    !name.isEmpty && some name != topic.metadata.name

/-- A topic that records the identity of its remote topic. -/
def setExternalName (topic : Topic) (identity : String) : Topic :=
  { topic with metadata := topic.metadata.annotate externalNameKey identity }

/-- A topic that records no identity. -/
def forgetExternalName (topic : Topic) : Topic :=
  { topic with metadata := topic.metadata.forget externalNameKey }

/-- The conditions of a topic. -/
def conditions (topic : Topic) : List Condition :=
  match topic.status with
  | some status => status.conditions
  | none => []

/-- A new topic. -/
def new (name : String) (parameters : Parameters) : Topic where
  metadata := { name := some name }
  spec := ⟨parameters⟩

/-- The path of the topics at the API server, of one namespace or of all. -/
def collectionPath (space : Option String) : String :=
  "/apis/" ++ apiVersion ++ "/" ++
    (match space with
      | some name => "namespaces/" ++ name ++ "/"
      | none => "") ++ plural

/-- The path of one topic at the API server. -/
def path (space name : String) : String :=
  collectionPath (some space) ++ "/" ++ name

/-- How messages refer to a topic. -/
def reference (name : String) (space : Option String) : String :=
  kind ++ "." ++ version ++ "." ++ group ++ "/" ++ name ++
    match space with
    | some space => "." ++ space
    | none => ""

/-- How messages refer to this topic. -/
def referenceText (topic : Topic) : String :=
  reference (topic.metadata.name.getD "") topic.metadata.namespaceName

end Topic

end TopicOperator
