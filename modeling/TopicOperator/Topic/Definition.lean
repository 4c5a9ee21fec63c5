import TopicOperator.Json.Pointer
import TopicOperator.Schema.Basic
import TopicOperator.Topic.Codec
import TopicOperator.Yaml.Block

/-!
# Resource definition

The definition with which topics are made known to the API server: their names, the columns in which
they are listed, and the schemas of what is declared and of the status.
-/

namespace TopicOperator

namespace Topic

/-- A text that need not be there. -/
def optionalText (description : Option String) : Schema :=
  .text { description := description, nullable := true }

/-- A truth value that need not be there. -/
def optionalFlag (description : String) : Schema :=
  .flag { description := some description, nullable := true }

/-- A counter that need not be there. -/
def optionalCounter : Schema := .counter { nullable := true }

/-- The schema of parameters. -/
def parametersSchema : Schema :=
  .record { description := some "Desired state of the remote topic." }
    [("contentBasedDeduplication",
        optionalFlag "Enables content-based deduplication for FIFO topics."),
      ("deliveryPolicy", optionalText
        (some ("The policy that defines how the service retries failed deliveries to HTTP/S " ++
          "endpoints."))),
      ("displayName",
        optionalText (some "The display name to use for a topic with SMS subscriptions.")),
      ("fifoTopic", optionalFlag "Whether this is a FIFO topic."),
      ("kmsMasterKeyId", optionalText
        (some "The ID of a managed customer master key used for server-side encryption.")),
      ("policy", optionalText (some "The policy that defines who can access the topic.")),
      ("region", .text { description := some "Region the topic lives in." }),
      ("tags", .map { description := some "Tags attached to the topic.", nullable := true }
        (.text {}))]
    ["region"]

/-- The schema of what a topic declares. -/
def specSchema : Schema :=
  .record { description := some "A notification topic managed in a remote pub/sub service." }
    [("forProvider", parametersSchema)] ["forProvider"]

/-- The schema of observations. -/
def observationSchema : Schema :=
  .record
    { description := some "Values computed by the remote system, refreshed on every pass."
      standard := some (.object []) }
    [("effectiveDeliveryPolicy", optionalText
        (some "The delivery policy after defaults were applied by the remote system.")),
      ("subscriptionsConfirmed", optionalCounter),
      ("subscriptionsDeleted", optionalCounter),
      ("subscriptionsPending", optionalCounter),
      ("topicArn", optionalText none)]
    []

/-- The schema of a condition. -/
def conditionSchema : Schema :=
  .record {}
    [("lastTransitionTime", .formatted
        { description :=
            some "Last time the condition transitioned from one status or reason to another."
          nullable := true }
        "date-time"),
      ("message", optionalText
        (some "A human readable message indicating details about the transition.")),
      ("reason", .choice { description := some "The reason for the condition's last transition." }
        ["Creating", "Available", "Unavailable", "Deleting", "ReconcileSuccess",
          "ReconcileError"]),
      ("status", .choice
        { description := some "Status of the condition, one of True, False, Unknown." }
        ["True", "False", "Unknown"]),
      ("type", .choice {} ["Ready", "Synced"])]
    ["reason", "status", "type"]

/-- The schema of a status. -/
def statusSchema : Schema :=
  .record { nullable := true }
    [("atProvider", observationSchema),
      ("conditions", .list { standard := some (.list []) } conditionSchema)]
    []

/-- The schema of topics. -/
def schema : Schema :=
  .record
    { description := some "Auto-generated derived type for TopicSpec via \x60CustomResource\x60"
      title := some kind }
    [("spec", specSchema), ("status", statusSchema)] ["spec"]

/-- A column of a listing. -/
structure Column where
  name : String
  path : String
  type : String := "string"
  /-- Whether the column is shown in wide listings only. -/
  wide : Bool := false

/-- The written form of a column. -/
def Column.toJson (c : Column) : Json :=
  .object ([("jsonPath", .text c.path), ("name", .text c.name)] ++
    (if c.wide then [("priority", .integer 1)] else []) ++ [("type", .text c.type)])

/-- The column that shows the status of the conditions of a type. -/
def conditionColumn (type : String) : Column where
  name := type
  path := ".status.conditions[?(@.type==\"" ++ type ++ "\")].status"

/-- The columns in which topics are listed. -/
def columns : List Column :=
  [conditionColumn "Ready", conditionColumn "Synced",
    { name := "External-Name", path := ".metadata.annotations.converge\\.dev/external-name" },
    { name := "ARN", path := ".status.atProvider.topicArn", wide := true },
    { name := "Age", path := ".metadata.creationTimestamp", type := "date" }]

/-- The names of the resource in a definition. -/
def namesJson : Json :=
  .object [("categories", .list []), ("kind", .text kind), ("plural", .text plural),
    ("shortNames", .list []), ("singular", .text "topic")]

/-- The version of the resource in a definition. -/
def versionJson : Json :=
  .object [("additionalPrinterColumns", .list (columns.map Column.toJson)),
    ("name", .text version), ("schema", .object [("openAPIV3Schema", schema.toJson)]),
    ("served", .bool true), ("storage", .bool true),
    ("subresources", .object [("status", .object [])])]

/-- The resource definition. -/
def definition : Json :=
  .object [("apiVersion", .text "apiextensions.k8s.io/v1"),
    ("kind", .text "CustomResourceDefinition"),
    ("metadata", .object [("name", .text definitionName)]),
    ("spec", .object [("group", .text group), ("names", namesJson),
      ("scope", .text "Namespaced"), ("versions", .list [versionJson])])]

/-- The part of the resource definition that a pointer names. -/
def definitionAt? (pointer : String) : Option Json :=
  (Json.Pointer.ofText? pointer).bind fun place => Json.at? place definition

/-- The document that holds the resource definition. -/
def definitionDocument : String := Yaml.document definition

/-- How many bytes of the document are written where only some can be, if that is all of it. -/
def writeDefinition? (capacity : Nat) : Option Nat :=
  let size := definitionDocument.utf8ByteSize
  if size ≤ capacity then some size else none

/-- The wording of a failure to write the document. -/
def writeFailureText : String := "failed to write the CustomResourceDefinition"

end Topic

end TopicOperator
