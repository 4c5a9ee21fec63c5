import TopicOperator.Proofs.Pass.FirstSight
import TopicOperator.Proofs.Sync.LateInitialization
import TopicOperator.Proofs.Work.Triple

/-!
# Adoption of a created topic

A remote topic that was created from some parameters is adopted by a topic that declares nothing but
the region: it records the identity and takes over what it reads.  Sent and read again, a declaration
comes back part by part.  The exceptions are texts and maps of tags that are declared empty: these are
sent, but reading nothing is no reason to declare anything, so they come back open.  What was adopted is
in line with the remote topic all the same.
-/

namespace TopicOperator

open World Work

namespace Setting

/-- A setting of the same kind that declares nothing. -/
def unset : Setting → Setting
  | text _ => text none
  | flag _ => flag none

/-- A setting in which an empty text is not declared. -/
def withoutEmpty : Setting → Setting
  | text value => text (value.filter fun s => !s.isEmpty)
  | flag value => flag value

/-- What is sent for a setting is what an open setting is completed to, unless it is empty. -/
theorem completedBy_unset_sent (setting : Setting) :
    setting.unset.completedBy setting.sent = setting.withoutEmpty := by
  cases setting with
  | text value => cases value <;> rfl
  | flag value =>
      cases value with
      | none => rfl
      | some b =>
          show flag (readFlag (writeFlag b)) = flag (some b)
          rw [readFlag_writeFlag]

/-- A text that is not declared agrees with the same texts as an empty one. -/
theorem agrees_withoutEmpty (setting : Setting) (observed : Option String) :
    setting.withoutEmpty.agrees observed = setting.agrees observed := by
  cases setting with
  | flag value => rfl
  | text value =>
      have hgetD : (value.filter fun s => !s.isEmpty).getD "" = value.getD "" := by
        cases value with
        | none => rfl
        | some s => by_cases hs : s = "" <;> simp [Option.filter, hs]
      simp only [withoutEmpty, agrees, hgetD]

end Setting

namespace Parameters

/-- Parameters in which empty texts and an empty map of tags are not declared. -/
def withoutEmpty (p : Parameters) : Parameters :=
  { p with
    deliveryPolicy := p.deliveryPolicy.filter fun s => !s.isEmpty
    displayName := p.displayName.filter fun s => !s.isEmpty
    policy := p.policy.filter fun s => !s.isEmpty
    kmsMasterKeyId := p.kmsMasterKeyId.filter fun s => !s.isEmpty
    tags := p.tags.filter fun map => !map.isEmpty }

variable (p : Parameters) (identity : String)

theorem setting_withoutEmpty (a : Attribute) :
    p.withoutEmpty.setting a = (p.setting a).withoutEmpty := by
  cases a <;> rfl

theorem setting_region_only (a : Attribute) :
    ({ region := p.region } : Parameters).setting a = (p.setting a).unset := by
  cases a <;> rfl

theorem part_region_only (region : String) (d : Part) :
    ({ region := region } : Parameters).part d = none := by
  cases d with
  | setting a => cases a <;> rfl
  | tags => rfl

theorem tagMap_withoutEmpty : p.withoutEmpty.tagMap = p.tagMap := by
  show (p.tags.filter fun map => !map.isEmpty).getD .empty = p.tags.getD .empty
  cases p.tags with
  | none => rfl
  | some map =>
      cases hempty : map.isEmpty with
      | false => simp [Option.filter, hempty]
      | true =>
          obtain rfl := TextMap.isEmpty_iff.1 hempty
          rfl

/-- To leave out what is declared empty changes nothing about what is up to date. -/
theorem isUpToDate_withoutEmpty (snapshot : Snapshot) :
    isUpToDate p.withoutEmpty snapshot = isUpToDate p snapshot := by
  rw [Bool.eq_iff_iff, isUpToDate_iff, isUpToDate_iff, tagMap_withoutEmpty]
  simp only [inSync, setting_withoutEmpty, Setting.agrees_withoutEmpty]

/-- The tags that are offered of those that were sent. -/
theorem offered_initial :
    TagDiff.offered p.initial.tags = p.tags.filter fun map => !map.isEmpty := by
  have hsent : p.initial.tags.isEmpty = p.tagMap.isEmpty := by
    show (p.tagMap.entries.map Tag.ofEntry).isEmpty = p.tagMap.entries.isEmpty
    rw [List.isEmpty_map]
  rw [TagDiff.offered, collapse_initial_tags, hsent, tagMap]
  cases p.tags with
  | none => rfl
  | some map => cases hempty : map.isEmpty <;> simp [Option.filter, hempty]

/-- Parameters that hold only the region are completed by the remote topic that was asked for to what
asked for it. -/
theorem completedBy_initial_region_only :
    ({ region := p.region } : Parameters).completedBy (p.initial.snapshot identity) =
      p.withoutEmpty := by
  refine ext_setting rfl (fun a => ?_) ?_
  · rw [setting_completedBy, observed_initial, setting_region_only, setting_withoutEmpty]
    exact (p.setting a).completedBy_unset_sent
  · exact p.offered_initial

/-- They gain something exactly if anything was declared. -/
theorem gainsFrom_initial_region_only_iff :
    ({ region := p.region } : Parameters).gainsFrom (p.initial.snapshot identity) = true ↔
      ∃ d, p.withoutEmpty.part d ≠ none := by
  rw [gainsFrom_iff, completedBy_initial_region_only]
  simp only [part_region_only, true_and]

end Parameters

namespace Lifecycle

variable {w later : World} {topic second : Topic} {identity : String}

/-- There is no remote topic yet of the identity that the topic would get. -/
structure Unmade (place : String) (topic : Topic) (w : World) (t : Topic) : Prop where
  same : t = topic
  region : w.region = place
  free : w.remote.topics.get? (identityFor place topic.anyName) = none

/-- The call that creates a topic that was not there leaves it as it was asked for, if it
succeeds. -/
theorem Unmade.mutate_creation (place : String) (topic : Topic) :
    Meets (Unmade place topic) (Work.mutate topic.creation)
      (fun answer w _ => match answer with
        | .ok identity => w.remote.topics.get? identity = some topic.parameters.initial
        | .error _ => True)
      fun _ _ _ => True := by
  refine Meets.mutate (fun w t h answer hanswer => ?_) fun _ _ _ _ _ _ _ => trivial
  obtain ⟨-, ⟨hremote, hanswered⟩ | ⟨-, hrefused⟩⟩ := w.answer_mutate topic.creation
  · obtain rfl := Except.ok.inj (hanswered.symm.trans hanswer)
    rw [hremote, Topic.creation_eq]
    rcases w.remote.mutate_create w.region topic.anyName topic.parameters.initial.attributes
      topic.parameters.initial.tags with hcreated | ⟨⟨e, he⟩, -⟩
    · rw [hcreated, h.region, h.free]
      exact (TextMap.get?_insert _ _ _ _).trans (if_pos rfl)
    · rw [he]
      trivial
  · obtain ⟨e, rfl, -⟩ := hrefused _ hanswer
    trivial

/-- A topic that was created where there was none is as it was asked for, whatever else happens. -/
theorem Unmade.create (place : String) (topic : Topic) :
    Meets (Unmade place topic) Lifecycle.create
      (fun identity w _ => w.remote.topics.get? identity = some topic.parameters.initial)
      fun _ _ _ => True := by
  have hget : Meets (Unmade place topic) (MonadState.get : Work Topic)
      (fun t w t' => Unmade place topic w t' ∧ t = topic) fun _ _ _ => True :=
    Meets.get fun _ _ h => ⟨h, h.same⟩
  refine hget.bind fun t => Meets.of_and fun hsame => ?_
  subst hsame
  refine (Unmade.mutate_creation place t).bind fun answer => ?_
  cases answer with
  | error cause => exact Meets.throw _ fun _ _ _ => trivial
  | ok identity =>
      -- What comes after the call does not reach the remote service.
      refine Meets.bind (Keeps.write (fun _ _ _ h => h) fun _ _ _ _ => trivial) fun _ => ?_
      refine Meets.bind (Keeps.modify fun _ _ h => ?_) fun _ => ?_
      · exact h
      · exact Meets.bind (Keeps.log (fun _ _ _ h => h) _ _ _) fun _ =>
          Meets.pure identity fun _ _ h => h

/-- A topic that was created where there was none is adopted by a topic that records its identity and
holds only the region: it is up to date, the topic takes over what was declared, and this counts as
filled exactly if anything was.  In between, anything may happen that leaves the remote topic as it
is, and the store takes the parameters if there are any to write. -/
theorem adoption_recovers_declaration
    (hfree : w.remote.topics.get? (identityFor w.region topic.anyName) = none)
    (hcreate : (w.perform topic create).result = .ok identity)
    (hlater : later.Unhindered)
    (hremote : later.remote.topics.get? identity =
      (w.perform topic create).world.remote.topics.get? identity)
    (hname : second.externalName = some identity)
    (hparameters : second.parameters = { region := topic.parameters.region })
    (htaken : (∃ d, topic.parameters.withoutEmpty.part d ≠ none) →
      (later.store.write (second.withParameters topic.parameters.withoutEmpty)
        (.parameters topic.parameters.withoutEmpty)).1 = .ok ()) :
    let seen := later.perform second observe
    ∃ filled,
      seen.result =
        .ok (.present identity (topic.parameters.initial.snapshot identity) true filled) ∧
      seen.topic = second.withParameters topic.parameters.withoutEmpty ∧
      (filled = true ↔ ∃ d, topic.parameters.withoutEmpty.part d ≠ none) := by
  have hfound : later.remote.recordedBy second = some (identity, topic.parameters.initial) := by
    have hmade := Unmade.create w.region topic w topic ⟨rfl, rfl, hfree⟩
    rw [Ran.Ends, hcreate] at hmade
    exact Remote.recordedBy_eq_some_iff.2 ⟨hname, hremote.trans hmade⟩
  have hcompleted : second.parameters.completedBy (topic.parameters.initial.snapshot identity) =
      topic.parameters.withoutEmpty := by
    rw [hparameters, Parameters.completedBy_initial_region_only]
  have hgains : second.parameters.gainsFrom (topic.parameters.initial.snapshot identity) = true ↔
      ∃ d, topic.parameters.withoutEmpty.part d ≠ none := by
    rw [hparameters]
    exact topic.parameters.gainsFrom_initial_region_only_iff identity
  have hadopted : second.completedBy (topic.parameters.initial.snapshot identity) =
      second.withParameters topic.parameters.withoutEmpty := congrArg _ hcompleted
  obtain ⟨after, hfill⟩ := perform_fillParameters_taken later second
    (topic.parameters.initial.snapshot identity) fun h => by
      rw [hadopted, hcompleted]
      exact htaken (hgains.1 h)
  have hseen : later.perform second observe =
      ⟨.ok (.present identity (topic.parameters.initial.snapshot identity)
          (isUpToDate topic.parameters.withoutEmpty (topic.parameters.initial.snapshot identity))
          (second.parameters.gainsFrom (topic.parameters.initial.snapshot identity))),
        second.withParameters topic.parameters.withoutEmpty, after⟩ := by
    rw [perform_observe_read hlater hfound, hfill, hadopted]
    rfl
  dsimp only
  rw [hseen, Parameters.isUpToDate_withoutEmpty, Parameters.isUpToDate_initial]
  exact ⟨_, rfl, rfl, hgains⟩

/-- A topic of the same name that records the identity and declares only the region. -/
def adoptingTopic : Topic :=
  Topic.setExternalName
    { metadata := { generateName := some "billing-" }, spec := ⟨{ region := "us-east-1" }⟩ }
    "arn:aws:sns:us-east-1:000000000000:billing-"

theorem adoption_recovers_declaration_unnamed :
    let w : World := { region := "us-east-1", clock := ⟨0⟩ }
    let created := w.perform unnamedTopic create
    let seen := created.world.perform adoptingTopic observe
    created.result = .ok "arn:aws:sns:us-east-1:000000000000:billing-" ∧
      seen.result = .ok (.present "arn:aws:sns:us-east-1:000000000000:billing-"
        (unnamedTopic.parameters.initial.snapshot "arn:aws:sns:us-east-1:000000000000:billing-")
        true true) ∧
      seen.topic.parameters = { region := "us-east-1", fifoTopic := some false } := by
  intro w created seen
  have hcreated : created.result = .ok "arn:aws:sns:us-east-1:000000000000:billing-" := by decide
  obtain ⟨filled, hresult, htopic, hfilled⟩ :=
    @adoption_recovers_declaration w created.world unnamedTopic adoptingTopic _ rfl hcreated
      ⟨by decide, by decide⟩ rfl (by decide) rfl fun _ => rfl
  obtain rfl := hfilled.2 ⟨.setting .fifoTopic, by decide⟩
  refine ⟨hcreated, hresult, ?_⟩
  rw [htopic]
  decide

end Lifecycle

end TopicOperator
