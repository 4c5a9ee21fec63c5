import TopicOperator.Topic.Attribute

/-!
# Declared state of a topic

The parameters of a topic: where it lives, and for each attribute and for the tags as a whole
whether they are declared and how.  Filling parameters from defaults takes a default only where
nothing is declared; a declared value wins, be it empty or false.
-/

namespace TopicOperator

/-- Declared state of a topic. -/
structure Parameters where
  region : String
  deliveryPolicy : Option String := none
  displayName : Option String := none
  policy : Option String := none
  fifoTopic : Option Bool := none
  contentBasedDeduplication : Option Bool := none
  kmsMasterKeyId : Option String := none
  tags : Option (TextMap String) := none
deriving DecidableEq

namespace Parameters

instance : Inhabited Parameters := ⟨{ region := "" }⟩

/-- The value declared for an attribute. -/
def setting (p : Parameters) : Attribute → Setting
  | .deliveryPolicy => .text p.deliveryPolicy
  | .displayName => .text p.displayName
  | .policy => .text p.policy
  | .fifoTopic => .flag p.fifoTopic
  | .kmsMasterKeyId => .text p.kmsMasterKeyId
  | .contentBasedDeduplication => .flag p.contentBasedDeduplication

/-- The declared tags, none if they are not declared. -/
def tagMap (p : Parameters) : TextMap String :=
  p.tags.getD .empty

/-- The parameters with everything that is not declared taken from defaults.  The region is always
declared. -/
def fillFrom (declared defaults : Parameters) : Parameters where
  region := declared.region
  deliveryPolicy := declared.deliveryPolicy.or defaults.deliveryPolicy
  displayName := declared.displayName.or defaults.displayName
  policy := declared.policy.or defaults.policy
  fifoTopic := declared.fifoTopic.or defaults.fifoTopic
  contentBasedDeduplication :=
    declared.contentBasedDeduplication.or defaults.contentBasedDeduplication
  kmsMasterKeyId := declared.kmsMasterKeyId.or defaults.kmsMasterKeyId
  tags := declared.tags.or defaults.tags

/-- Whether an attribute agrees with what the remote service reports. -/
def inSync (p : Parameters) (attributes : ObservedAttributes) (a : Attribute) : Bool :=
  (p.setting a).agrees (a.observed attributes)

/-- The attributes sent when a topic is created: everything that is declared.  What is not declared
is left out, so that the remote service applies its defaults. -/
def creationAttributes (p : Parameters) : TextMap String :=
  .ofList <| Attribute.all.filterMap fun a =>
    if (p.setting a).isSet then some (a.name, (p.setting a).canonical) else none

/-- The tags sent when a topic is created, in the order of their keys. -/
def creationTags (p : Parameters) : List (String × String) :=
  p.tagMap.entries

theorem setting_comparison (p : Parameters) (a : Attribute) :
    (a.comparison = .text ↔ ∃ v, p.setting a = .text v) ∧
      (a.comparison = .flag ↔ ∃ v, p.setting a = .flag v) := by
  cases a <;> simp [setting, Attribute.comparison]

end Parameters

end TopicOperator
