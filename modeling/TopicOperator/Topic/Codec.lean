import TopicOperator.Json.Reading
import TopicOperator.Json.Writer
import TopicOperator.Time.Stamp
import TopicOperator.Topic.Resource

/-!
# Topics as JSON

The written form of topics and of their parts, and how they are read.  What is not set is left out.
Reading is strict about the parts that belong to topics alone: they refuse repeated fields and may
be given as lists.  The metadata that all objects share may repeat fields, of which the last counts,
and may hold null for anything.
-/

namespace TopicOperator

open Json Json.Draft

namespace Instant

/-- The written form of an instant. -/
def toJson (t : Instant) : Json := .text t.write

/-- Reads an instant. -/
def reader : Reader Instant
  | .text wording extent => do
      match Instant.read? (← readWording wording) with
      | some t => return t
      | none => .error ⟨.noTime, extent.stop⟩
  | d => d.mismatch "a timestamp string"

end Instant

/-- The written form of a map of texts. -/
def TextMap.toJson (map : TextMap String) : Json :=
  .object (map.entries.map fun (name, value) => (name, .text value))

namespace Parameters

/-- The written form of parameters. -/
def toJson (p : Parameters) : Json :=
  .object <|
    ("region", Json.text p.region) ::
      (Json.optional "deliveryPolicy" .text p.deliveryPolicy ++
        Json.optional "displayName" .text p.displayName ++
        Json.optional "policy" .text p.policy ++
        Json.optional "fifoTopic" .bool p.fifoTopic ++
        Json.optional "contentBasedDeduplication" .bool p.contentBasedDeduplication ++
        Json.optional "kmsMasterKeyId" .text p.kmsMasterKeyId ++
        Json.optional "tags" TextMap.toJson p.tags)

/-- How parameters are read. -/
def shape : RecordKind Parameters where
  title := "struct TopicParameters"
  strict := true
  blank := { region := "" }
  fields := [
    requiredField "region" (readText "a string") fun v p => { p with region := v },
    optionalField "deliveryPolicy" .optional (readText "a string")
      fun v p => { p with deliveryPolicy := v },
    optionalField "displayName" .optional (readText "a string")
      fun v p => { p with displayName := v },
    optionalField "policy" .optional (readText "a string") fun v p => { p with policy := v },
    optionalField "fifoTopic" .optional readBool fun v p => { p with fifoTopic := v },
    optionalField "contentBasedDeduplication" .optional readBool
      fun v p => { p with contentBasedDeduplication := v },
    optionalField "kmsMasterKeyId" .optional (readText "a string")
      fun v p => { p with kmsMasterKeyId := v },
    optionalField "tags" .optional readMap fun v p => { p with tags := v }]

/-- Reads parameters. -/
def reader : Reader Parameters := shape.read

end Parameters

namespace Spec

/-- The written form of a specification. -/
def toJson (s : Spec) : Json := .object [("forProvider", s.forProvider.toJson)]

/-- How a specification is read. -/
def shape : RecordKind Spec where
  title := "struct TopicSpec"
  strict := true
  blank := ⟨{ region := "" }⟩
  fields := [requiredField "forProvider" Parameters.reader fun v _ => ⟨v⟩]

/-- Reads a specification. -/
def reader : Reader Spec := shape.read

end Spec

namespace Observation

/-- The written form of an observation. -/
def toJson (o : Observation) : Json :=
  .object
    (Json.optional "topicArn" .text o.topicArn ++
      Json.optional "subscriptionsConfirmed" .integer o.subscriptionsConfirmed ++
      Json.optional "subscriptionsPending" .integer o.subscriptionsPending ++
      Json.optional "subscriptionsDeleted" .integer o.subscriptionsDeleted ++
      Json.optional "effectiveDeliveryPolicy" .text o.effectiveDeliveryPolicy)

/-- How an observation is read. -/
def shape : RecordKind Observation where
  title := "struct TopicObservation"
  strict := true
  blank := {}
  fields := [
    optionalField "topicArn" .optional (readText "a string") fun v o => { o with topicArn := v },
    optionalField "subscriptionsConfirmed" .optional readInteger
      fun v o => { o with subscriptionsConfirmed := v },
    optionalField "subscriptionsPending" .optional readInteger
      fun v o => { o with subscriptionsPending := v },
    optionalField "subscriptionsDeleted" .optional readInteger
      fun v o => { o with subscriptionsDeleted := v },
    optionalField "effectiveDeliveryPolicy" .optional (readText "a string")
      fun v o => { o with effectiveDeliveryPolicy := v }]

/-- Reads an observation. -/
def reader : Reader Observation := shape.read

end Observation

namespace ConditionType

/-- The name of a type of conditions. -/
def name : ConditionType → String
  | .ready => "Ready"
  | .synced => "Synced"

/-- All types of conditions with their names. -/
def named : List (String × ConditionType) := [("Ready", .ready), ("Synced", .synced)]

end ConditionType

namespace ConditionReason

/-- The name of a reason. -/
def name : ConditionReason → String
  | .creating => "Creating"
  | .available => "Available"
  | .unavailable => "Unavailable"
  | .deleting => "Deleting"
  | .reconcileSuccess => "ReconcileSuccess"
  | .reconcileError => "ReconcileError"

/-- All reasons with their names. -/
def named : List (String × ConditionReason) :=
  [("Creating", .creating), ("Available", .available), ("Unavailable", .unavailable),
    ("Deleting", .deleting), ("ReconcileSuccess", .reconcileSuccess),
    ("ReconcileError", .reconcileError)]

end ConditionReason

namespace ConditionStatus

/-- The name of a status of a condition. -/
def name : ConditionStatus → String
  | .holds => "True"
  | .fails => "False"
  | .unknown => "Unknown"

/-- All statuses of conditions with their names. -/
def named : List (String × ConditionStatus) :=
  [("True", .holds), ("False", .fails), ("Unknown", .unknown)]

end ConditionStatus

namespace Condition

/-- The written form of a condition. -/
def toJson (c : Condition) : Json :=
  .object <|
    Json.optional "lastTransitionTime" Instant.toJson c.lastTransition ++
      Json.optional "message" .text c.message ++
      [("reason", .text c.reason.name), ("status", .text c.status.name),
        ("type", .text c.type.name)]

/-- How a condition is read. -/
def shape : RecordKind Condition where
  title := "struct TopicCondition"
  strict := true
  blank := { reason := .creating, status := .unknown, type := .ready }
  fields := [
    optionalField "lastTransitionTime" .optionalByName Instant.reader
      fun v c => { c with lastTransition := v },
    optionalField "message" .optionalByName (readText "a string")
      fun v c => { c with message := v },
    requiredField "reason" (readVariant ConditionReason.named) fun v c => { c with reason := v },
    requiredField "status" (readVariant ConditionStatus.named) fun v c => { c with status := v },
    requiredField "type" (readVariant ConditionType.named) fun v c => { c with type := v }]

/-- Reads a condition. -/
def reader : Reader Condition := shape.read

end Condition

namespace Status

/-- The written form of a status. -/
def toJson (s : Status) : Json :=
  .object [("conditions", .list (s.conditions.map Condition.toJson)),
    ("atProvider", s.atProvider.toJson)]

/-- How a status is read. -/
def shape : RecordKind Status where
  title := "struct TopicStatus"
  strict := true
  blank := {}
  fields := [
    defaultField "conditions" (readList Condition.reader) fun v s => { s with conditions := v },
    defaultField "atProvider" Observation.reader fun v s => { s with atProvider := v }]

/-- Reads a status. -/
def reader : Reader Status := shape.read

end Status

namespace OwnerReference

/-- The written form of an owner. -/
def toJson (o : OwnerReference) : Json :=
  .object <|
    ("apiVersion", Json.text o.apiVersion) ::
      (Json.optional "blockOwnerDeletion" .bool o.blockOwnerDeletion ++
        Json.optional "controller" .bool o.controller ++
        [("kind", .text o.kind), ("name", .text o.name), ("uid", .text o.uid)])

/-- How an owner is read. -/
def shape : RecordKind OwnerReference where
  title := "OwnerReference"
  strict := false
  blank := {}
  fields := [
    optionalField "apiVersion" .optional (readText "a string")
      fun v o => { o with apiVersion := v.getD "" },
    optionalField "blockOwnerDeletion" .optional readBool
      fun v o => { o with blockOwnerDeletion := v },
    optionalField "controller" .optional readBool fun v o => { o with controller := v },
    optionalField "kind" .optional (readText "a string") fun v o => { o with kind := v.getD "" },
    optionalField "name" .optional (readText "a string") fun v o => { o with name := v.getD "" },
    optionalField "uid" .optional (readText "a string") fun v o => { o with uid := v.getD "" }]

end OwnerReference

namespace FieldHistory

/-- The written form of a history. -/
def toJson (h : FieldHistory) : Json :=
  .object
    (Json.optional "apiVersion" .text h.apiVersion ++
      Json.optional "fieldsType" .text h.fieldsType ++
      Json.optional "fieldsV1" id h.fields ++
      Json.optional "manager" .text h.manager ++
      Json.optional "operation" .text h.operation ++
      Json.optional "subresource" .text h.subresource ++
      Json.optional "time" Instant.toJson h.time)

/-- How deeply the fields of a history may be nested where so many lists and objects are open around
it. -/
def fieldsRoom (depth : Nat) : Nat := nestingRoom - (depth + 1)

/-- How a history is read where so many lists and objects are open around it. -/
def shape (depth : Nat) : RecordKind FieldHistory where
  title := "ManagedFieldsEntry"
  strict := false
  blank := {}
  fields := [
    optionalField "apiVersion" .optional (readText "a string")
      fun v h => { h with apiVersion := v },
    optionalField "fieldsType" .optional (readText "a string")
      fun v h => { h with fieldsType := v },
    optionalField "fieldsV1" .optional (readAny (fieldsRoom depth)) fun v h => { h with fields := v },
    optionalField "manager" .optional (readText "a string") fun v h => { h with manager := v },
    optionalField "operation" .optional (readText "a string")
      fun v h => { h with operation := v },
    optionalField "subresource" .optional (readText "a string")
      fun v h => { h with subresource := v },
    optionalField "time" .optional Instant.reader fun v h => { h with time := v }]

end FieldHistory

namespace Metadata

/-- The written form of a list of texts. -/
def textList (items : List String) : Json := .list (items.map .text)

/-- The written form of metadata. -/
def toJson (m : Metadata) : Json :=
  .object
    (Json.optional "annotations" TextMap.toJson m.annotations ++
      Json.optional "creationTimestamp" Instant.toJson m.creationTimestamp ++
      Json.optional "deletionGracePeriodSeconds" .integer m.deletionGracePeriodSeconds ++
      Json.optional "deletionTimestamp" Instant.toJson m.deletionTimestamp ++
      Json.optional "finalizers" textList m.finalizers ++
      Json.optional "generateName" .text m.generateName ++
      Json.optional "generation" .integer m.generation ++
      Json.optional "labels" TextMap.toJson m.labels ++
      Json.optional "managedFields" (fun entries => .list (entries.map FieldHistory.toJson))
        m.managedFields ++
      Json.optional "name" .text m.name ++
      Json.optional "namespace" .text m.namespaceName ++
      Json.optional "ownerReferences" (fun owners => .list (owners.map OwnerReference.toJson))
        m.ownerReferences ++
      Json.optional "resourceVersion" .text m.resourceVersion ++
      Json.optional "selfLink" .text m.selfLink ++
      Json.optional "uid" .text m.uid)

/-- How metadata are read where so many lists and objects are open around them. -/
def shape (depth : Nat) : RecordKind Metadata where
  title := "ObjectMeta"
  strict := false
  blank := {}
  fields := [
    optionalField "annotations" .optional readMap fun v m => { m with annotations := v },
    optionalField "creationTimestamp" .optional Instant.reader
      fun v m => { m with creationTimestamp := v },
    optionalField "deletionGracePeriodSeconds" .optional readInteger
      fun v m => { m with deletionGracePeriodSeconds := v },
    optionalField "deletionTimestamp" .optional Instant.reader
      fun v m => { m with deletionTimestamp := v },
    optionalField "finalizers" .optional (readList (readText "a string"))
      fun v m => { m with finalizers := v },
    optionalField "generateName" .optional (readText "a string")
      fun v m => { m with generateName := v },
    optionalField "generation" .optional readInteger fun v m => { m with generation := v },
    optionalField "labels" .optional readMap fun v m => { m with labels := v },
    optionalField "managedFields" .optional (readList (FieldHistory.shape (depth + 2)).read)
      fun v m => { m with managedFields := v },
    optionalField "name" .optional (readText "a string") fun v m => { m with name := v },
    optionalField "namespace" .optional (readText "a string")
      fun v m => { m with namespaceName := v },
    optionalField "ownerReferences" .optional (readList OwnerReference.shape.read)
      fun v m => { m with ownerReferences := v },
    optionalField "resourceVersion" .optional (readText "a string")
      fun v m => { m with resourceVersion := v },
    optionalField "selfLink" .optional (readText "a string") fun v m => { m with selfLink := v },
    optionalField "uid" .optional (readText "a string") fun v m => { m with uid := v }]

end Metadata

namespace Topic

/-- The written form of a topic. -/
def toJson (topic : Topic) : Json :=
  .object <|
    [("apiVersion", .text apiVersion), ("kind", .text kind),
        ("metadata", topic.metadata.toJson), ("spec", topic.spec.toJson)] ++
      Json.optional "status" Status.toJson topic.status

/-- How a topic is read where so many lists and objects are open around it.  Its version and kind are
not looked at. -/
def shape (depth : Nat) : RecordKind Topic where
  title := "struct Topic"
  strict := true
  blank := { spec := ⟨{ region := "" }⟩ }
  fields := [
    requiredField "metadata" (Metadata.shape (depth + 1)).read fun v t => { t with metadata := v },
    requiredField "spec" Spec.reader fun v t => { t with spec := v },
    optionalField "status" .optionalByName Status.reader fun v t => { t with status := v }]

/-- Reads a topic. -/
def reader : Reader Topic := (shape 0).read

/-- The written form of a list of objects. -/
def listJson (objects : List Json) : Json :=
  .object [("apiVersion", .text apiVersion), ("items", .list objects),
    ("kind", .text (kind ++ "List")), ("metadata", .object [])]

/-- How a list of topics is read. -/
def listShape : RecordKind (List Topic) where
  title := "struct ObjectList"
  strict := false
  blank := []
  fields := [requiredField "items" (readList (shape 2).read) fun v _ => v]

/-- Reads a list of topics. -/
def listReader : Reader (List Topic) := listShape.read

/-- The topic that a value stands for. -/
def ofJson? (value : Json) : Option Topic :=
  (reader (.ofJson value)).toOption

end Topic

end TopicOperator
