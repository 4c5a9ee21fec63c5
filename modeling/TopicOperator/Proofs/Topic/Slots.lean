import TopicOperator.Proofs.Json.Written
import TopicOperator.Topic.Codec

/-!
# The parts of a stored topic

Which part of a topic each field of its stored form fills.
-/

namespace TopicOperator

open Json Json.Draft Json.Draft.RecordKind

namespace Parameters

theorem slot_region :
    shape.Slot "region" (readText "a string") region fun v p => { p with region := v } where
  field := ⟨_, rfl⟩
  apart := by simp [shape, requiredField, optionalField, leaves_of_map]
  laws := ⟨fun _ _ => rfl, fun _ => rfl, fun _ _ _ => rfl⟩

theorem slot_deliveryPolicy :
    shape.Slot "deliveryPolicy" (readOptional (readText "a string")) deliveryPolicy
      fun v p => { p with deliveryPolicy := v } where
  field := ⟨_, rfl⟩
  apart := by simp [shape, requiredField, optionalField, leaves_of_map]
  laws := ⟨fun _ _ => rfl, fun _ => rfl, fun _ _ _ => rfl⟩

theorem slot_displayName :
    shape.Slot "displayName" (readOptional (readText "a string")) displayName
      fun v p => { p with displayName := v } where
  field := ⟨_, rfl⟩
  apart := by simp [shape, requiredField, optionalField, leaves_of_map]
  laws := ⟨fun _ _ => rfl, fun _ => rfl, fun _ _ _ => rfl⟩

theorem slot_policy :
    shape.Slot "policy" (readOptional (readText "a string")) policy
      fun v p => { p with policy := v } where
  field := ⟨_, rfl⟩
  apart := by simp [shape, requiredField, optionalField, leaves_of_map]
  laws := ⟨fun _ _ => rfl, fun _ => rfl, fun _ _ _ => rfl⟩

theorem slot_fifoTopic :
    shape.Slot "fifoTopic" (readOptional readBool) fifoTopic
      fun v p => { p with fifoTopic := v } where
  field := ⟨_, rfl⟩
  apart := by simp [shape, requiredField, optionalField, leaves_of_map]
  laws := ⟨fun _ _ => rfl, fun _ => rfl, fun _ _ _ => rfl⟩

theorem slot_contentBasedDeduplication :
    shape.Slot "contentBasedDeduplication" (readOptional readBool) contentBasedDeduplication
      fun v p => { p with contentBasedDeduplication := v } where
  field := ⟨_, rfl⟩
  apart := by simp [shape, requiredField, optionalField, leaves_of_map]
  laws := ⟨fun _ _ => rfl, fun _ => rfl, fun _ _ _ => rfl⟩

theorem slot_kmsMasterKeyId :
    shape.Slot "kmsMasterKeyId" (readOptional (readText "a string")) kmsMasterKeyId
      fun v p => { p with kmsMasterKeyId := v } where
  field := ⟨_, rfl⟩
  apart := by simp [shape, requiredField, optionalField, leaves_of_map]
  laws := ⟨fun _ _ => rfl, fun _ => rfl, fun _ _ _ => rfl⟩

theorem slot_tags :
    shape.Slot "tags" (readOptional readMap) tags fun v p => { p with tags := v } where
  field := ⟨_, rfl⟩
  apart := by simp [shape, requiredField, optionalField, leaves_of_map]
  laws := ⟨fun _ _ => rfl, fun _ => rfl, fun _ _ _ => rfl⟩

end Parameters

namespace Spec

theorem slot_forProvider :
    shape.Slot "forProvider" Parameters.reader forProvider fun v _ => ⟨v⟩ where
  field := ⟨_, rfl⟩
  apart := by simp [shape, requiredField]
  laws := ⟨fun _ _ => rfl, fun _ => rfl, fun _ _ _ => rfl⟩

end Spec

namespace Observation

theorem slot_topicArn :
    shape.Slot "topicArn" (readOptional (readText "a string")) topicArn
      fun v o => { o with topicArn := v } where
  field := ⟨_, rfl⟩
  apart := by simp [shape, optionalField, leaves_of_map]
  laws := ⟨fun _ _ => rfl, fun _ => rfl, fun _ _ _ => rfl⟩

theorem slot_subscriptionsConfirmed :
    shape.Slot "subscriptionsConfirmed" (readOptional readInteger) subscriptionsConfirmed
      fun v o => { o with subscriptionsConfirmed := v } where
  field := ⟨_, rfl⟩
  apart := by simp [shape, optionalField, leaves_of_map]
  laws := ⟨fun _ _ => rfl, fun _ => rfl, fun _ _ _ => rfl⟩

theorem slot_subscriptionsPending :
    shape.Slot "subscriptionsPending" (readOptional readInteger) subscriptionsPending
      fun v o => { o with subscriptionsPending := v } where
  field := ⟨_, rfl⟩
  apart := by simp [shape, optionalField, leaves_of_map]
  laws := ⟨fun _ _ => rfl, fun _ => rfl, fun _ _ _ => rfl⟩

theorem slot_subscriptionsDeleted :
    shape.Slot "subscriptionsDeleted" (readOptional readInteger) subscriptionsDeleted
      fun v o => { o with subscriptionsDeleted := v } where
  field := ⟨_, rfl⟩
  apart := by simp [shape, optionalField, leaves_of_map]
  laws := ⟨fun _ _ => rfl, fun _ => rfl, fun _ _ _ => rfl⟩

theorem slot_effectiveDeliveryPolicy :
    shape.Slot "effectiveDeliveryPolicy" (readOptional (readText "a string"))
      effectiveDeliveryPolicy fun v o => { o with effectiveDeliveryPolicy := v } where
  field := ⟨_, rfl⟩
  apart := by simp [shape, optionalField, leaves_of_map]
  laws := ⟨fun _ _ => rfl, fun _ => rfl, fun _ _ _ => rfl⟩

end Observation

namespace Condition

theorem slot_lastTransition :
    shape.Slot "lastTransitionTime" (readOptional Instant.reader) lastTransition
      fun v c => { c with lastTransition := v } where
  field := ⟨_, rfl⟩
  apart := by simp [shape, requiredField, optionalField, leaves_of_map]
  laws := ⟨fun _ _ => rfl, fun _ => rfl, fun _ _ _ => rfl⟩

theorem slot_message :
    shape.Slot "message" (readOptional (readText "a string")) message
      fun v c => { c with message := v } where
  field := ⟨_, rfl⟩
  apart := by simp [shape, requiredField, optionalField, leaves_of_map]
  laws := ⟨fun _ _ => rfl, fun _ => rfl, fun _ _ _ => rfl⟩

theorem slot_reason :
    shape.Slot "reason" (readVariant ConditionReason.named) reason
      fun v c => { c with reason := v } where
  field := ⟨_, rfl⟩
  apart := by simp [shape, requiredField, optionalField, leaves_of_map]
  laws := ⟨fun _ _ => rfl, fun _ => rfl, fun _ _ _ => rfl⟩

theorem slot_status :
    shape.Slot "status" (readVariant ConditionStatus.named) status
      fun v c => { c with status := v } where
  field := ⟨_, rfl⟩
  apart := by simp [shape, requiredField, optionalField, leaves_of_map]
  laws := ⟨fun _ _ => rfl, fun _ => rfl, fun _ _ _ => rfl⟩

theorem slot_type :
    shape.Slot "type" (readVariant ConditionType.named) type fun v c => { c with type := v } where
  field := ⟨_, rfl⟩
  apart := by simp [shape, requiredField, optionalField, leaves_of_map]
  laws := ⟨fun _ _ => rfl, fun _ => rfl, fun _ _ _ => rfl⟩

end Condition

namespace Status

theorem slot_conditions :
    shape.Slot "conditions" (readList Condition.reader) conditions
      fun v s => { s with conditions := v } where
  field := ⟨_, rfl⟩
  apart := by simp [shape, defaultField, leaves_of_map]
  laws := ⟨fun _ _ => rfl, fun _ => rfl, fun _ _ _ => rfl⟩

theorem slot_atProvider :
    shape.Slot "atProvider" Observation.reader atProvider fun v s => { s with atProvider := v } where
  field := ⟨_, rfl⟩
  apart := by simp [shape, defaultField, leaves_of_map]
  laws := ⟨fun _ _ => rfl, fun _ => rfl, fun _ _ _ => rfl⟩

end Status

namespace Metadata

theorem slot_annotations (depth : Nat) :
    (shape depth).Slot "annotations" (readOptional readMap) annotations
      fun v m => { m with annotations := v } where
  field := ⟨_, rfl⟩
  apart := by simp [shape, optionalField, leaves_of_map]
  laws := ⟨fun _ _ => rfl, fun _ => rfl, fun _ _ _ => rfl⟩

theorem slot_deletionTimestamp (depth : Nat) :
    (shape depth).Slot "deletionTimestamp" (readOptional Instant.reader) deletionTimestamp
      fun v m => { m with deletionTimestamp := v } where
  field := ⟨_, rfl⟩
  apart := by simp [shape, optionalField, leaves_of_map]
  laws := ⟨fun _ _ => rfl, fun _ => rfl, fun _ _ _ => rfl⟩

theorem slot_finalizers (depth : Nat) :
    (shape depth).Slot "finalizers" (readOptional (readList (readText "a string"))) finalizers
      fun v m => { m with finalizers := v } where
  field := ⟨_, rfl⟩
  apart := by simp [shape, optionalField, leaves_of_map]
  laws := ⟨fun _ _ => rfl, fun _ => rfl, fun _ _ _ => rfl⟩

end Metadata

namespace Topic

theorem slot_metadata (depth : Nat) :
    (shape depth).Slot "metadata" (Metadata.shape (depth + 1)).read metadata
      fun v t => { t with metadata := v } where
  field := ⟨_, rfl⟩
  apart := by simp [shape, requiredField, optionalField, leaves_of_map]
  laws := ⟨fun _ _ => rfl, fun _ => rfl, fun _ _ _ => rfl⟩

theorem slot_spec (depth : Nat) :
    (shape depth).Slot "spec" Spec.reader spec fun v t => { t with spec := v } where
  field := ⟨_, rfl⟩
  apart := by simp [shape, requiredField, optionalField, leaves_of_map]
  laws := ⟨fun _ _ => rfl, fun _ => rfl, fun _ _ _ => rfl⟩

theorem slot_status (depth : Nat) :
    (shape depth).Slot "status" (readOptional Status.reader) status
      fun v t => { t with status := v } where
  field := ⟨_, rfl⟩
  apart := by simp [shape, requiredField, optionalField, leaves_of_map]
  laws := ⟨fun _ _ => rfl, fun _ => rfl, fun _ _ _ => rfl⟩

end Topic

end TopicOperator
