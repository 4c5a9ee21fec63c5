import TopicOperator.Proofs.Pass.Stages
import TopicOperator.Proofs.Topic.Identity

/-!
# Faultless passes

A calm world is faultless when no failure is announced for a call to come.  A pass in a faultless
world succeeds: where there is no remote topic it creates one and records its identity, and where
there is one it makes every call of its plan, after which the plan is empty.  The world stays
faultless.
-/

namespace TopicOperator

/-- A calm world whose remote service will refuse no call on purpose. -/
structure World.Faultless (w : World) : Prop extends World.Calm w where
  unannounced : w.remote.failAt = none

/-- A world at some time. -/
def World.at (w : World) (now : Instant) : World := { w with clock := now }

theorem World.Calm.at {w : World} (hw : w.Calm) (now : Instant) : (w.at now).Calm :=
  ⟨hw.active, hw.undisturbed, hw.recording⟩

theorem World.Faultless.at {w : World} (hw : w.Faultless) (now : Instant) : (w.at now).Faultless :=
  ⟨hw.toCalm.at now, hw.unannounced⟩

theorem World.Faultless.after {w : World} (hw : w.Faultless) {remote : Remote}
    (hremote : remote.failAt = none) (added : List StoreWrite) (clock : Instant)
    (events : List Event) : (w.after remote added clock events).Faultless :=
  ⟨hw.toCalm.after remote added clock events, hremote⟩

namespace Parameters

variable {p : Parameters} {identity : String} {found : RemoteTopic}

/-- The calls of a pass at a remote topic. -/
def callsFor (p : Parameters) (identity : String) (found : RemoteTopic) : List Mutation :=
  (p.planFor identity found).map Task.mutation

/-- What a plan leaves needs no further call. -/
theorem planFor_revisedBy_callsFor (p : Parameters) (identity : String) (found : RemoteTopic) :
    p.planFor identity (found.revisedBy (p.callsFor identity found)) = [] :=
  planFor_revisedBy (p.planFor identity found) (List.append_nil _).symm

theorem callsFor_of_inLine (h : p.planFor identity found = []) : p.callsFor identity found = [] := by
  rw [callsFor, h]
  rfl

theorem outcomeFor_of_inLine (h : p.planFor identity found = []) :
    p.outcomeFor identity found = .unchanged := by
  rw [outcomeFor, h]
  rfl

theorem outcomeFor_of_behind (h : p.planFor identity found ≠ []) :
    p.outcomeFor identity found =
      .updated (p.verdictOn identity found).attributes.toList.length
        (p.verdictOn identity found).tags.toAdd.size
        (p.verdictOn identity found).tags.toRemove.size :=
  if_neg fun hempty => h (List.isEmpty_iff.1 hempty)

end Parameters

namespace Remote

/-- The remote service after the remote topic of a topic was created in a region.  A topic that was
there already stays as it is. -/
def created (remote : Remote) (region : String) (topic : Topic) : Remote :=
  { remote.logged topic.creation with
    topics := remote.topics.insert (identityFor region topic.anyName)
      ((remote.topics.get? (identityFor region topic.anyName)).getD
        ⟨topic.parameters.creationAttributes,
          topic.parameters.creationTags.map Tag.ofEntry⟩) }

variable {remote : Remote} {topic : Topic} {identity : String} {found : RemoteTopic}

theorem mutate_creation (hfail : remote.failAt = none) (region : String) (topic : Topic) :
    remote.mutate region topic.creation =
      (.ok (identityFor region topic.anyName), remote.created region topic) := by
  rw [mutate_of_quiet hfail, Topic.creation, change_create]
  rfl

/-- A topic that was created records the remote topic that it got. -/
theorem recordedBy_created (remote : Remote) (region : String) (topic : Topic) (status : Status) :
    ∃ found, (remote.created region topic).recordedBy
      ((topic.setExternalName (identityFor region topic.anyName)).withStatus status) =
        some (identityFor region topic.anyName, found) := by
  have hget : (remote.created region topic).topics.get? (identityFor region topic.anyName) =
      some ((remote.topics.get? (identityFor region topic.anyName)).getD
        ⟨topic.parameters.creationAttributes,
          topic.parameters.creationTags.map Tag.ofEntry⟩) := by
    show (remote.topics.insert _ _).get? _ = _
    rw [TextMap.get?_insert, if_pos rfl]
  exact ⟨_, recordedBy_eq_some_iff.2 ⟨topic.externalName_setExternalName region, hget⟩⟩

/-- A pass leaves the recorded remote topic where it is. -/
theorem recordedBy_revise (hfound : remote.recordedBy topic = some (identity, found))
    (ms : List Mutation) (snapshot : Snapshot) (status : Status) :
    (remote.revise identity found ms).recordedBy
      ((topic.completedBy snapshot).withStatus status) =
        some (identity, found.revisedBy ms) := by
  obtain ⟨hname, -⟩ := recordedBy_eq_some_iff.1 hfound
  refine recordedBy_eq_some_iff.2 ⟨?_, get?_revise ms⟩
  rw [Topic.externalName_withStatus, Topic.externalName_completedBy]
  exact hname

/-- Without an announced failure a plan is carried out as a whole. -/
theorem carryOut_planFor (hfail : remote.failAt = none)
    (hfound : remote.topics.get? identity = some found) (p : Parameters) (region : String) :
    remote.carryOut region (p.planFor identity found) =
      (.ok (), remote.revise identity found (p.callsFor identity found)) := by
  refine carryOut_revisions (fun task => Verdict.revises_of_mem_plan) hfound ?_
  intro k _
  rw [hfail]
  exact nofun

end Remote

namespace Lifecycle

open World

variable {w : World} {topic : Topic} {identity : String} {found : RemoteTopic}

/-- A faultless pass at a remote topic that is there. -/
theorem perform_reconcile_seen (hw : w.Faultless)
    (hfound : w.remote.recordedBy topic = some (identity, found)) :
    ∃ events, w.perform topic reconcile =
      ⟨.ok (topic.parameters.outcomeFor identity found),
        (topic.completedBy (found.snapshot identity)).withStatus
          (topic.seenStatus w.clock (found.snapshot identity)),
        w.after (w.remote.revise identity found (topic.parameters.callsFor identity found))
          (topic.parameterWrites (found.snapshot identity) ++
            topic.statusWrites (topic.seenStatus w.clock (found.snapshot identity)))
          w.clock.next events⟩ := by
  obtain ⟨-, hget⟩ := Remote.recordedBy_eq_some_iff.1 hfound
  exact perform_reconcile_present hw.toCalm hfound
    (Remote.carryOut_planFor hw.unannounced hget topic.parameters w.region)

/-- A faultless pass where there is no remote topic. -/
theorem perform_reconcile_created (hw : w.Faultless) (hfound : w.remote.recordedBy topic = none) :
    ∃ events, w.perform topic reconcile =
      ⟨.ok (.created (identityFor w.region topic.anyName)),
        (topic.setExternalName (identityFor w.region topic.anyName)).withStatus
          (topic.createdStatus w.clock),
        w.after (w.remote.created w.region topic)
          (.externalName (identityFor w.region topic.anyName) ::
            topic.statusWrites (topic.createdStatus w.clock))
          w.clock.next events⟩ :=
  perform_reconcile_absent hw.toCalm hfound
    (Remote.mutate_creation hw.unannounced w.region topic)

theorem remote_reconcile_seen (hw : w.Faultless)
    (hfound : w.remote.recordedBy topic = some (identity, found)) :
    (w.perform topic reconcile).world.remote =
      w.remote.revise identity found (topic.parameters.callsFor identity found) := by
  obtain ⟨events, h⟩ := perform_reconcile_seen hw hfound
  rw [h]
  rfl

theorem remote_reconcile_created (hw : w.Faultless) (hfound : w.remote.recordedBy topic = none) :
    (w.perform topic reconcile).world.remote = w.remote.created w.region topic := by
  obtain ⟨events, h⟩ := perform_reconcile_created hw hfound
  rw [h]
  rfl

/-- A faultless pass succeeds. -/
theorem reconcile_succeeds (hw : w.Faultless) (topic : Topic) :
    ∃ outcome, (w.perform topic reconcile).result = .ok outcome := by
  cases hfound : w.remote.recordedBy topic with
  | none =>
      obtain ⟨events, h⟩ := perform_reconcile_created hw hfound
      rw [h]
      exact ⟨_, rfl⟩
  | some recorded =>
      obtain ⟨identity, found⟩ := recorded
      obtain ⟨events, h⟩ := perform_reconcile_seen hw hfound
      rw [h]
      exact ⟨_, rfl⟩

/-- A pass leaves a faultless world faultless. -/
theorem faultless_perform_reconcile (hw : w.Faultless) (topic : Topic) :
    (w.perform topic reconcile).world.Faultless := by
  cases hfound : w.remote.recordedBy topic with
  | none =>
      obtain ⟨events, h⟩ := perform_reconcile_created hw hfound
      have hkept : (w.remote.created w.region topic).failAt = none := hw.unannounced
      rw [h]
      exact hw.after hkept _ _ _
  | some recorded =>
      obtain ⟨identity, found⟩ := recorded
      obtain ⟨events, h⟩ := perform_reconcile_seen hw hfound
      have hkept : (w.remote.revise identity found
          (topic.parameters.callsFor identity found)).failAt = none := hw.unannounced
      rw [h]
      exact hw.after hkept _ _ _

/-- The pass after a pass, at some later time: it works on the topic and in the world that the one
before left. -/
def again (before : Ran Outcome) (now : Instant) : Ran Outcome :=
  (before.world.at now).perform before.topic reconcile

/-- A remote topic with a display name that is not declared like this, a flag that is no flag, and a
tag key that is repeated. -/
def driftedRemote : RemoteTopic where
  attributes := .ofList [("DisplayName", "Invoices"), ("FifoTopic", "maybe")]
  tags := [⟨"team", "a"⟩, ⟨"team", "b"⟩]

/-- A world that holds the drifted remote topic. -/
def driftedWorld : World where
  remote := { topics := .ofList [("arn:orders", driftedRemote)] }
  region := "eu-west-1"
  clock := ⟨0⟩

/-- What is declared of the drifted remote topic. -/
def driftedParameters : Parameters where
  region := "eu-west-1"
  displayName := some "Orders"
  tags := some (.ofList [("team", "c")])

/-- A topic that records the drifted remote topic. -/
def driftedTopic : Topic :=
  (Topic.new "orders" driftedParameters).setExternalName "arn:orders"

theorem driftedWorld_faultless : driftedWorld.Faultless :=
  ⟨⟨rfl, rfl, [], rfl⟩, rfl⟩

end Lifecycle

end TopicOperator
