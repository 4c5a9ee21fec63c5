import TopicOperator.Store.Error
import TopicOperator.Topic.Codec

/-!
# Writes of a topic

What a pass writes back about a topic, and the merge patches that carry it to the API server.  The
patch of a status names every field of the observation, with null for those that are not set, so
that no value of an earlier pass stays.
-/

namespace TopicOperator

/-- What is written back about a topic. -/
inductive StoreWrite where
  | parameters (parameters : Parameters)
  | externalName (identity : String)
  | status (status : Status)
deriving DecidableEq

namespace StoreWrite

/-- The patch of parameters. -/
def parametersPatch (p : Parameters) : Json :=
  .object [("spec", .object [("forProvider", p.toJson)])]

/-- The patch of an identity. -/
def externalNamePatch (identity : String) : Json :=
  .object [("metadata", .object [("annotations",
    .object [(Topic.externalNameKey, .text identity)])])]

/-- An observation with null for what is not set. -/
def observationPatch (o : Observation) : Json :=
  .object [("topicArn", Json.nullable .text o.topicArn),
    ("subscriptionsConfirmed", Json.nullable .integer o.subscriptionsConfirmed),
    ("subscriptionsPending", Json.nullable .integer o.subscriptionsPending),
    ("subscriptionsDeleted", Json.nullable .integer o.subscriptionsDeleted),
    ("effectiveDeliveryPolicy", Json.nullable .text o.effectiveDeliveryPolicy)]

/-- The patch of a status. -/
def statusPatch (s : Status) : Json :=
  .object [("status", .object [("conditions", .list (s.conditions.map Condition.toJson)),
    ("atProvider", observationPatch s.atProvider)])]

/-- The patch that carries a write. -/
def patch : StoreWrite → Json
  | parameters p => parametersPatch p
  | externalName identity => externalNamePatch identity
  | status s => statusPatch s

/-- The part of the object below which a write is addressed. -/
def subresource : StoreWrite → String
  | status _ => "/status"
  | _ => ""

/-- The error of a write that failed for an object of some name. -/
def failure (name : String) (cause : ApiFailure) : StoreWrite → StoreError
  | parameters _ => .patchParameters name cause
  | externalName _ => .patchExternalName name cause
  | status _ => .patchStatus name cause

end StoreWrite

end TopicOperator
