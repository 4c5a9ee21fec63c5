import TopicOperator.Proofs.Number.Numeral
import TopicOperator.TextMap.Lemmas
import TopicOperator.Topic.Observation

/-!
# What an observation reads

An observation reads the five attributes that the remote service computes, and no other.  A counter is
set to an integer exactly if the text under its name is a numeral of this integer and the integer has
64 bits.  A text is set exactly if it is there and not empty.
-/

namespace TopicOperator

/-- The names of the attributes that the remote service computes. -/
def ReportedName.all : List String :=
  [topicArn, subscriptionsConfirmed, subscriptionsPending, subscriptionsDeleted,
    effectiveDeliveryPolicy]

/-- The counters of an observation. -/
inductive Counter where
  | confirmed
  | pending
  | deleted

namespace Counter

/-- The name under which a counter is reported. -/
def name : Counter → String
  | confirmed => ReportedName.subscriptionsConfirmed
  | pending => ReportedName.subscriptionsPending
  | deleted => ReportedName.subscriptionsDeleted

/-- What an observation says of a counter. -/
def value : Counter → Observation → Option Int
  | confirmed, o => o.subscriptionsConfirmed
  | pending, o => o.subscriptionsPending
  | deleted, o => o.subscriptionsDeleted

end Counter

/-- The text under a name is a numeral of an integer of 64 bits. -/
def ReportsInteger (attributes : ObservedAttributes) (name : String) (n : Int) : Prop :=
  ∃ s, attributes.get? name = some s ∧ Number.Numeral s.toList n ∧ -2 ^ 63 ≤ n ∧ n ≤ 2 ^ 63 - 1

/-- There is a text under a name, and it is not empty. -/
def ReportsText (attributes : ObservedAttributes) (name s : String) : Prop :=
  attributes.get? name = some s ∧ s ≠ ""

namespace Observation

/-- What it means to read the reported attributes exactly. -/
structure ReadsExactly (read : ObservedAttributes → Observation) : Prop where
  counter : ∀ (c : Counter) (attributes : ObservedAttributes) (n : Int),
    c.value (read attributes) = some n ↔ ReportsInteger attributes c.name n
  topicArn : ∀ (attributes : ObservedAttributes) (s : String),
    (read attributes).topicArn = some s ↔ ReportsText attributes ReportedName.topicArn s
  effectiveDeliveryPolicy : ∀ (attributes : ObservedAttributes) (s : String),
    (read attributes).effectiveDeliveryPolicy = some s ↔
      ReportsText attributes ReportedName.effectiveDeliveryPolicy s
  /-- Every integer of 64 bits is read back from its decimal. -/
  decimal : ∀ (c : Counter) (attributes : ObservedAttributes) (n : Int),
    -2 ^ 63 ≤ n → n ≤ 2 ^ 63 - 1 →
      c.value (read (attributes.insert c.name (Number.signedDecimal n))) = some n
  /-- No other attribute matters. -/
  unread : ∀ first second : ObservedAttributes,
    (∀ name ∈ ReportedName.all, first.get? name = second.get? name) → read first = read second

variable {attributes first second : ObservedAttributes} {name s : String} {n : Int}

theorem counter_eq_some_iff :
    Observation.counter attributes name = some n ↔ ReportsInteger attributes name n := by
  have hread (s : String) : Number.int64.read? s = some n ↔
      Number.Numeral s.toList n ∧ -2 ^ 63 ≤ n ∧ n ≤ 2 ^ 63 - 1 :=
    Number.read?_eq_some_iff rfl (by decide) (by decide)
  rw [Observation.counter, Option.bind_eq_some_iff, ReportsInteger]
  exact exists_congr fun s => and_congr_right fun _ => hread s

theorem text_eq_some_iff :
    Observation.text attributes name = some s ↔ ReportsText attributes name s := by
  rw [Observation.text, Option.filter_eq_some_iff, ReportsText]
  simp

theorem value_ofAttributes (c : Counter) (attributes : ObservedAttributes) :
    c.value (ofAttributes attributes) = Observation.counter attributes c.name := by
  cases c <;> rfl

/-- An integer of 64 bits is reported by its decimal. -/
theorem reportsInteger_insert (hleast : -2 ^ 63 ≤ n) (hgreatest : n ≤ 2 ^ 63 - 1) :
    ReportsInteger (attributes.insert name (Number.signedDecimal n)) name n := by
  refine ⟨Number.signedDecimal n, ?_, ?_, hleast, hgreatest⟩
  · rw [TextMap.get?_insert, if_pos rfl]
  · rw [Number.signedDecimal, String.toList_ofList]
    exact Number.numeral_signedDigits n

theorem ofAttributes_congr
    (h : ∀ name ∈ ReportedName.all, first.get? name = second.get? name) :
    ofAttributes first = ofAttributes second := by
  simp only [ReportedName.all, List.forall_mem_cons] at h
  obtain ⟨harn, hconfirmed, hpending, hdeleted, hpolicy, -⟩ := h
  simp only [ofAttributes, Observation.text, Observation.counter, harn, hconfirmed, hpending,
    hdeleted, hpolicy]

/-- What the reported attributes say about a topic is read exactly. -/
theorem reported_attributes_read_exactly : ReadsExactly ofAttributes where
  counter c attributes n := by
    rw [value_ofAttributes]
    exact counter_eq_some_iff
  topicArn _ _ := text_eq_some_iff
  effectiveDeliveryPolicy _ _ := text_eq_some_iff
  decimal c attributes n hleast hgreatest := by
    rw [value_ofAttributes]
    exact counter_eq_some_iff.2 (reportsInteger_insert hleast hgreatest)
  unread _ _ := ofAttributes_congr

-- The negative limit, behind zeros; one more is no counter, though it is as long.
example :
    let o := ofAttributes (.ofList [("SubscriptionsConfirmed", "-0009223372036854775808"),
      ("SubscriptionsPending", "+0009223372036854775808")])
    o.subscriptionsConfirmed = some (-9223372036854775808) ∧ o.subscriptionsPending = none := by
  decide

end Observation

end TopicOperator
