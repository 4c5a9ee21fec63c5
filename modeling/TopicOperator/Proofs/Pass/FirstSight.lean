import TopicOperator.Proofs.Pass.Stages
import TopicOperator.Proofs.Topic.Identity

/-!
# The first sight of a created topic

A topic is created with everything that its parameters declare and with nothing else.  What is read
of it right after that says nothing that the parameters do not say, and everything that they say: it
fills nothing, and nothing is left to change.
-/

namespace TopicOperator

/-- The remote topic that parameters ask for: what they declare, and nothing else. -/
def Parameters.initial (p : Parameters) : RemoteTopic :=
  ⟨p.creationAttributes, p.creationTags.map Tag.ofEntry⟩

theorem Topic.creation_eq (topic : Topic) : topic.creation =
    .create topic.anyName topic.parameters.initial.attributes topic.parameters.initial.tags := rfl

namespace Setting

/-- The text that is sent for a setting when a topic is created, if any. -/
def sent (setting : Setting) : Option String :=
  if setting.isSet then some setting.canonical else none

/-- A setting is not completed by what was sent for it. -/
theorem completedBy_sent (setting : Setting) : setting.completedBy setting.sent = setting := by
  unfold sent
  split
  · rename_i hset
    exact completedBy_of_isSet hset _
  · cases setting with
    | text value => simp [completedBy]
    | flag value => simp [completedBy]

/-- A setting agrees with what was sent for it. -/
theorem agrees_sent (setting : Setting) : setting.agrees setting.sent = true := by
  unfold sent
  split
  · exact setting.agrees_canonical
  · rename_i hset
    -- What is not declared is not sent, and nothing is what an empty text and a false flag agree with.
    cases setting with
    | text value =>
        obtain rfl : value = none := by simpa [isSet] using hset
        exact Text.equalCaseless_self ""
    | flag value =>
        obtain rfl : value = none := by simpa [isSet] using hset
        rfl

end Setting

namespace Parameters

variable (p : Parameters) (identity : String)

/-- What is sent for an attribute is found under its name. -/
theorem get?_creationAttributes (a : Attribute) :
    p.creationAttributes.get? a.name = (p.setting a).sent := by
  have hentry : ∀ value, (a.name, value) ∈ (Attribute.all.filterMap fun b =>
      if (p.setting b).isSet then some (b.name, (p.setting b).canonical) else none) ↔
        (p.setting a).sent = some value := by
    intro value
    unfold Setting.sent
    rw [List.mem_filterMap]
    constructor
    · rintro ⟨b, -, hb⟩
      split at hb
      · rename_i hset
        obtain ⟨hname, rfl⟩ := Prod.mk.inj (Option.some.inj hb)
        obtain rfl := Attribute.name_injective hname
        exact if_pos hset
      · cases hb
    · intro hsent
      refine ⟨a, Attribute.mem_all a, ?_⟩
      split at hsent
      · rename_i hset
        obtain rfl := Option.some.inj hsent
        exact if_pos hset
      · cases hsent
  exact Option.ext fun value => (TextMap.get?_ofList_eq_some_iff fun _ _ hfirst hsecond =>
    Option.some.inj (((hentry _).1 hfirst).symm.trans ((hentry _).1 hsecond))).trans (hentry value)

theorem observed_initial (a : Attribute) :
    a.observed (p.initial.snapshot identity).attributes = (p.setting a).sent := by
  rw [Attribute.observed_snapshot]
  exact p.get?_creationAttributes a

theorem collapse_initial_tags : Tag.collapse p.initial.tags = p.tagMap := by
  show TextMap.ofList ((Tag.ofMap p.tagMap).map Tag.entry) = _
  rw [Tag.map_entry_ofMap, TextMap.ofList_entries]

/-- What is read of a remote topic as it was asked for fills nothing. -/
theorem completedBy_initial : p.completedBy (p.initial.snapshot identity) = p := by
  refine ext_setting rfl (fun a => ?_) ?_
  · rw [setting_completedBy, observed_initial]
    exact (p.setting a).completedBy_sent
  · show p.tags.or (TagDiff.offered p.initial.tags) = p.tags
    cases htags : p.tags with
    | some tags => rfl
    | none =>
        have hnone : p.initial.tags = [] := by
          simp [initial, creationTags, tagMap, htags, TextMap.empty]
        rw [hnone]
        rfl

theorem not_gainsFrom_initial : p.gainsFrom (p.initial.snapshot identity) = false := by
  simp [gainsFrom, completedBy_initial]

/-- A remote topic as it was asked for is up to date. -/
theorem isUpToDate_initial : isUpToDate p (p.initial.snapshot identity) = true := by
  rw [isUpToDate_iff]
  constructor
  · intro a
    unfold inSync
    rw [observed_initial]
    exact (p.setting a).agrees_sent
  · show TagsAgree p.tagMap (Tag.collapse p.initial.tags)
    rw [collapse_initial_tags]
    exact TagsAgree.refl _

end Parameters

namespace Lifecycle

open World Work

variable {w : World} {topic : Topic} {identity : String}

/-- A topic is created only as long as the token is not cancelled. -/
theorem active_of_create (hcreate : (w.perform topic create).result = .ok identity) :
    w.cancelled = false := by
  by_contra hcancelled
  have hanswer : (w.answer (.mutate topic.creation)).1 = .error .cancelled := by
    have hencounter : w.encounter topic.creation.operation topic.creation.address =
        (.error .cancelled, w) := by
      unfold encounter
      exact if_pos (eq_true_of_ne_false hcancelled)
    show (w.call _ _ _).1 = _
    unfold call
    rw [hencounter]
  have hnone : (w.perform topic create).result =
      .error (.cancelled topic.creation.operation.name) := by
    simp only [create, Work.mutate, perform_bind, perform_get, perform_ask, andThen_ok]
    rw [← Topic.creation, hanswer]
    rfl
  rw [hnone] at hcreate
  cases hcreate

/-- Creating a topic where there is none leaves it as it was asked for. -/
theorem perform_create_free (hw : w.Calm)
    (hfree : w.remote.topics.get? (identityFor w.region topic.anyName) = none)
    (hcreate : (w.perform topic create).result = .ok identity) :
    identity = identityFor w.region topic.anyName ∧ ∃ remote events,
      remote.topics.get? identity = some topic.parameters.initial ∧
      w.perform topic create = ⟨.ok identity, topic.setExternalName identity,
        w.after remote [.externalName identity] w.clock events⟩ := by
  by_cases hannounced : w.remote.failAt = some w.remote.calls.length
  · rw [perform_create_error hw (Remote.mutate_of_announced hannounced _ _)] at hcreate
    cases hcreate
  · have hmutate := Remote.mutate_of_not_announced hannounced w.region topic.creation
    rw [Topic.creation_eq, Remote.change_create, hfree] at hmutate
    obtain ⟨events, hperform⟩ := perform_create_ok hw hmutate
    rw [hperform] at hcreate
    obtain rfl := Except.ok.inj hcreate
    refine ⟨rfl, _, events, ?_, hperform⟩
    rw [TextMap.get?_insert, if_pos rfl]
    rfl

/-- A remote topic that is as the parameters ask for is seen without a change to the topic, and
without a write. -/
theorem perform_observe_initial (hw : w.Calm) (hname : topic.externalName = some identity)
    (hthere : w.remote.topics.get? identity = some topic.parameters.initial) :
    ∃ events, w.perform topic observe =
      ⟨.ok (.present identity (topic.parameters.initial.snapshot identity) true false), topic,
        w.after w.remote [] w.clock events⟩ := by
  obtain ⟨events, hobserve⟩ :=
    perform_observe_present hw (Remote.recordedBy_eq_some_iff.2 ⟨hname, hthere⟩)
  have hfills := topic.parameters.not_gainsFrom_initial identity
  refine ⟨events, ?_⟩
  rw [hobserve, Topic.parameterWrites, Topic.completedBy_of_not_gainsFrom hfills,
    topic.parameters.completedBy_initial, topic.parameters.isUpToDate_initial, hfills]
  rfl

/-- A topic that was just created is seen as it was asked for: its identity is recorded, it is up to
date, and seeing it changes and writes nothing. -/
theorem observe_created {writes : List StoreWrite} (hundisturbed : w.disturbances = [])
    (hstore : w.store = .recording writes)
    (hfree : w.remote.topics.get? (identityFor w.region topic.anyName) = none)
    (hcreate : (w.perform topic create).result = .ok identity) :
    let created := w.perform topic create
    let seen := created.world.perform created.topic observe
    identity = identityFor w.region topic.anyName ∧
      created.topic.externalName = some identity ∧
      seen.result = .ok (.present identity (topic.parameters.initial.snapshot identity) true false) ∧
      created.topic.parameters = topic.parameters ∧ seen.topic = created.topic ∧
      created.world.store = .recording (writes ++ [.externalName identity]) ∧
      seen.world.store = created.world.store := by
  have hw : w.Calm := ⟨active_of_create hcreate, hundisturbed, writes, hstore⟩
  obtain ⟨rfl, remote, events, hthere, hperform⟩ := perform_create_free hw hfree hcreate
  have hname := topic.externalName_setExternalName w.region
  have hparameters : (topic.setExternalName (identityFor w.region topic.anyName)).parameters =
      topic.parameters := rfl
  obtain ⟨others, hobserve⟩ := perform_observe_initial
    (hw.after remote [.externalName (identityFor w.region topic.anyName)] w.clock events) hname hthere
  rw [hparameters] at hobserve
  have hwritten : w.store.record [.externalName (identityFor w.region topic.anyName)] =
      .recording (writes ++ [.externalName (identityFor w.region topic.anyName)]) := by
    rw [hstore]
    rfl
  rw [hperform]
  dsimp only
  rw [hobserve]
  exact ⟨rfl, hname, rfl, hparameters, rfl, hwritten, Store.record_nil _⟩

/-- A topic whose name is still to be given, with a text, a flag and tags that are declared
empty. -/
def unnamedTopic : Topic where
  metadata := { generateName := some "billing-" }
  spec := ⟨{ region := "us-east-1", displayName := some "", fifoTopic := some false,
             tags := some .empty }⟩

theorem observe_created_unnamed :
    let w : World := { region := "us-east-1", clock := ⟨0⟩ }
    let created := w.perform unnamedTopic create
    let seen := created.world.perform created.topic observe
    created.result = .ok "arn:aws:sns:us-east-1:000000000000:billing-" ∧
      seen.result = .ok (.present "arn:aws:sns:us-east-1:000000000000:billing-"
        (unnamedTopic.parameters.initial.snapshot "arn:aws:sns:us-east-1:000000000000:billing-")
        true false) ∧
      seen.topic = created.topic ∧ seen.world.store = created.world.store := by
  intro w created seen
  have hcreated : created.result = .ok "arn:aws:sns:us-east-1:000000000000:billing-" := by decide
  obtain ⟨-, -, hresult, -, htopic, -, hstore⟩ :=
    @observe_created w unnamedTopic _ _ rfl rfl rfl hcreated
  exact ⟨hcreated, hresult, htopic, hstore⟩

end Lifecycle

end TopicOperator
