import TopicOperator.TextMap.Basic
import TopicOperator.Text.Caseless
import TopicOperator.Topic.Flag

/-!
# Attributes of a topic

The six attributes that can be set on a remote topic, in the order in which they are set, and what
it means that a declared value matches the text that the remote service reports.
-/

namespace TopicOperator

/-- An attribute that can be set on a remote topic, in the order of setting. -/
inductive Attribute where
  | deliveryPolicy
  | displayName
  | policy
  | fifoTopic
  | kmsMasterKeyId
  | contentBasedDeduplication
deriving DecidableEq, Repr

/-- How declared and observed values of an attribute are compared. -/
inductive Comparison where
  | text
  | flag
deriving DecidableEq, Repr

namespace Attribute

/-- All attributes, in the order of setting. -/
def all : List Attribute :=
  [deliveryPolicy, displayName, policy, fifoTopic, kmsMasterKeyId, contentBasedDeduplication]

theorem mem_all (a : Attribute) : a ∈ all := by cases a <;> decide

theorem all_nodup : all.Nodup := by decide

/-- The name of an attribute at the remote service. -/
def name : Attribute → String
  | deliveryPolicy => "DeliveryPolicy"
  | displayName => "DisplayName"
  | policy => "Policy"
  | fifoTopic => "FifoTopic"
  | kmsMasterKeyId => "KmsMasterKeyId"
  | contentBasedDeduplication => "ContentBasedDeduplication"

/-- The attribute of a name, in exactly its spelling. -/
def ofName? (s : String) : Option Attribute :=
  all.find? fun a => a.name == s

/-- The position of an attribute in the order of setting. -/
def position (a : Attribute) : Nat :=
  all.idxOf a

/-- How values of an attribute are compared. -/
def comparison : Attribute → Comparison
  | fifoTopic | contentBasedDeduplication => .flag
  | _ => .text

theorem name_injective {a b : Attribute} (h : a.name = b.name) : a = b := by
  cases a <;> cases b <;> first | rfl | exact absurd h (by decide)

theorem ofName?_name (a : Attribute) : ofName? a.name = some a := by
  cases a <;> decide

end Attribute

/-- The value declared for an attribute, if any. -/
inductive Setting where
  | text (value : Option String)
  | flag (value : Option Bool)
deriving DecidableEq, Repr

namespace Setting

/-- Whether a value is declared. -/
def isSet : Setting → Bool
  | text value => value.isSome
  | flag value => value.isSome

/-- The text that is sent for a setting.  An unset text is empty, an unset flag is false. -/
def canonical : Setting → String
  | text value => value.getD ""
  | flag value => writeFlag (value.getD false)

/-- Whether a setting agrees with what the remote service reports.  Texts are compared up to case.
A flag that was never given to the remote service is reported empty or not at all, which means
false. -/
def agrees (setting : Setting) (observed : Option String) : Bool :=
  let observed := observed.getD ""
  match setting with
  | text value => Text.equalCaseless (value.getD "") observed
  | flag value =>
      if observed.isEmpty then !value.getD false
      else readFlag observed == some (value.getD false)

end Setting

/-- The attributes that the remote service reports, by name. -/
abbrev ObservedAttributes := TextMap String

/-- What the remote service reports under the name of an attribute. -/
def Attribute.observed (a : Attribute) (attributes : ObservedAttributes) : Option String :=
  attributes.get? a.name

end TopicOperator
