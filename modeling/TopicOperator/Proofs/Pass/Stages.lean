import TopicOperator.Proofs.Pass.Calm
import TopicOperator.Proofs.Pass.CarryOut

/-!
# The stages of a pass

What each stage of a pass does in a calm world.  Observing completes the parameters; at a remote
topic that is there the pass then carries out its plan, where there is none it makes one call that
creates it; the status tells in either case how this went.  The events that a stage logs are left
open.
-/

namespace TopicOperator

/-- The remote topic that a topic records, with its identity. -/
def Remote.recordedBy (remote : Remote) (topic : Topic) : Option (String × RemoteTopic) :=
  topic.externalName.bind fun identity =>
    (remote.topics.get? identity).map fun found => (identity, found)

theorem Remote.recordedBy_eq_some_iff {remote : Remote} {topic : Topic} {identity : String}
    {found : RemoteTopic} :
    remote.recordedBy topic = some (identity, found) ↔
      topic.externalName = some identity ∧ remote.topics.get? identity = some found := by
  unfold recordedBy
  constructor
  · intro h
    obtain ⟨name, hname, h⟩ := Option.bind_eq_some_iff.1 h
    obtain ⟨rt, hrt, h⟩ := Option.map_eq_some_iff.1 h
    obtain ⟨rfl, rfl⟩ := Prod.mk.inj h
    exact ⟨hname, hrt⟩
  · rintro ⟨hname, hfound⟩
    rw [hname, Option.bind_some, hfound, Option.map_some]

namespace Topic

/-- The call that creates the remote topic of a topic. -/
def creation (topic : Topic) : Mutation :=
  .create topic.anyName topic.parameters.creationAttributes
    (topic.parameters.creationTags.map Tag.ofEntry)

/-- The status after the remote topic was created. -/
def createdStatus (topic : Topic) (now : Instant) : Status :=
  Status.next now topic.status [.creating, .reconcileSuccess] none

/-- The status after the remote topic was seen and brought into line. -/
def seenStatus (topic : Topic) (now : Instant) (snapshot : Snapshot) : Status :=
  Status.next now topic.status [.available, .reconcileSuccess]
    (some (Observation.ofAttributes snapshot.attributes))

/-- The status after the calls at a remote topic that was seen. -/
def alignedStatus (topic : Topic) (now : Instant) (snapshot : Snapshot) :
    Except PassError Unit → Status
  | .ok () => topic.seenStatus now snapshot
  | .error e => Lifecycle.failureStatus now topic e

end Topic

/-- What a pass tells of a remote topic that it was at. -/
def Parameters.outcomeFor (p : Parameters) (identity : String) (found : RemoteTopic) : Outcome :=
  if (p.planFor identity found).isEmpty then .unchanged
  else
    .updated (p.verdictOn identity found).attributes.toList.length
      (p.verdictOn identity found).tags.toAdd.size (p.verdictOn identity found).tags.toRemove.size

/-- Work that makes calls one after the other, and otherwise only logs. -/
def Work.CarriesOut (work : Work Unit) (tasks : List Task) : Prop :=
  ∀ (w : World) (topic : Topic), w.Unhindered → ∃ events, w.perform topic work =
    ⟨(w.remote.carryOut w.region tasks).1, topic,
      w.after (w.remote.carryOut w.region tasks).2 [] w.clock events⟩

namespace Work.CarriesOut

open World

theorem nothing : CarriesOut (pure ()) [] := by
  intro w topic _
  refine ⟨w.events, ?_⟩
  rw [perform_pure]
  simp [Remote.carryOut, World.after]

theorem log (level : Level) (message : String) (fields : List (String × String)) :
    CarriesOut (Work.log level message fields) [] := by
  intro w topic _
  refine ⟨w.events ++ [⟨level, message, fields⟩], ?_⟩
  rw [perform_log, log_eq_after]
  rfl

/-- An error of the first calls keeps the others from being made. -/
theorem andThen {first second : Work Unit} {tasks more : List Task} (hfirst : first.CarriesOut tasks)
    (hsecond : second.CarriesOut more) :
    CarriesOut (first >>= fun _ => second) (tasks ++ more) := by
  intro w topic hw
  obtain ⟨events, h⟩ := hfirst w topic hw
  rw [perform_bind, h, Remote.carryOut_append]
  -- Whether the second part starts at all is up to the result of the first one.
  obtain ⟨result, remote⟩ := w.remote.carryOut w.region tasks
  cases result with
  | error e => exact ⟨events, rfl⟩
  | ok value =>
      obtain ⟨others, h⟩ := hsecond (w.after remote [] w.clock events) topic (hw.after _ _ _ _)
      refine ⟨others, ?_⟩
      rw [andThen_ok, h]
      simp only [after_after, after_remote, after_region, after_clock, List.append_nil]

/-- A call before other work. -/
theorem call (task : Task) {next : Work Unit} {tasks : List Task}
    (hnext : next.CarriesOut tasks) :
    CarriesOut (do let _ ← orElse (← mutate task.mutation) task.failure; next)
      (task :: tasks) := by
  intro w topic hw
  simp only [perform_bind, hw.perform_mutate, andThen_ok, Remote.carryOut]
  obtain ⟨answer, remote⟩ := w.remote.mutate w.region task.mutation
  cases answer with
  | error cause => exact ⟨w.events, rfl⟩
  | ok identity =>
      obtain ⟨events, h⟩ := hnext (w.after remote [] w.clock w.events) topic (hw.after _ _ _ _)
      refine ⟨events, ?_⟩
      rw [perform_orElse_ok, andThen_ok, h]
      simp only [after_after, after_remote, after_region, after_clock, List.append_nil]

/-- A call before other work, made only where there is something to do. -/
theorem callUnless (idle : Bool) (task : Task) {next : Work Unit} {tasks : List Task}
    (hnext : next.CarriesOut tasks) :
    CarriesOut (if idle then next else do let _ ← orElse (← mutate task.mutation) task.failure; next)
      ((if idle then [] else [task]) ++ tasks) := by
  cases idle with
  | true => exact hnext
  | false => exact hnext.call task

end Work.CarriesOut

namespace Lifecycle

open World Work

variable {w : World} {topic : Topic} {identity : String} {found : RemoteTopic}

theorem setAttributes_carriesOut (identity : String) (changes : List (Attribute × String)) :
    CarriesOut (setAttributes identity changes)
      (changes.map (Verdict.attributeTask identity)) := by
  induction changes with
  | nil => exact .nothing
  | cons change rest ih =>
      have hlog := CarriesOut.log .debug "updated attribute" [("attribute", change.1.name)]
      exact (hlog.andThen ih).call (Verdict.attributeTask identity change)

/-- An update carries out the plan of its verdict, whatever the verdict. -/
theorem update_carriesOut (identity : String) (verdict : Verdict) :
    CarriesOut (update identity verdict) (verdict.plan identity) := by
  -- The work is put together from its end.
  have hlog := CarriesOut.log .info "updated remote topic" [("identity", identity),
    ("attributes", Number.decimal verdict.attributes.toList.length),
    ("tags_added", Number.decimal verdict.tags.toAdd.size),
    ("tags_removed", Number.decimal verdict.tags.toRemove.size)]
  have hadd := hlog.callUnless verdict.tags.toAdd.isEmpty
    ⟨.addTags identity verdict.tags.tagsToAdd, .addTags⟩
  have hremove := hadd.callUnless verdict.tags.toRemove.isEmpty
    ⟨.removeTags identity verdict.tags.keysToRemove, .removeTags verdict.tags.keysToRemove⟩
  have hall := (setAttributes_carriesOut identity verdict.attributes.toList).andThen hremove
  rw [List.append_nil] at hall
  exact hall

/-- Where parameters gain nothing, nothing is done. -/
theorem perform_fillParameters_idle (w : World) {snapshot : Snapshot}
    (hgains : topic.parameters.gainsFrom snapshot = false) :
    w.perform topic (fillParameters snapshot) = ⟨.ok false, topic, w⟩ := by
  simp [fillParameters, hgains]

/-- Where parameters gain something, they are completed and then written. -/
theorem perform_fillParameters_gaining (w : World) {snapshot : Snapshot}
    (hgains : topic.parameters.gainsFrom snapshot = true) :
    w.perform topic (fillParameters snapshot) =
      ((w.log [⟨.debug, "persisting late initialized parameters", []⟩]).perform
        (topic.completedBy snapshot)
        (write (.parameters (topic.parameters.completedBy snapshot)) .persistParameters)).andThen
          fun _ => pure true := by
  simp only [fillParameters, perform_bind, perform_get, andThen_ok, hgains, if_true, perform_modify,
    perform_log]
  rfl

/-- Filling parameters completes them, and writes them only if this changes them. -/
theorem perform_fillParameters (hw : w.Calm) (topic : Topic) (snapshot : Snapshot) :
    ∃ events, w.perform topic (fillParameters snapshot) =
      ⟨.ok (topic.parameters.gainsFrom snapshot), topic.completedBy snapshot,
        w.after w.remote (topic.parameterWrites snapshot) w.clock events⟩ := by
  rw [Topic.parameterWrites]
  cases hgains : topic.parameters.gainsFrom snapshot with
  | false =>
      refine ⟨w.events, ?_⟩
      rw [perform_fillParameters_idle w hgains, Topic.completedBy_of_not_gainsFrom hgains]
      simp [World.after]
  | true =>
      refine ⟨w.events ++ [⟨.debug, "persisting late initialized parameters", []⟩], ?_⟩
      rw [perform_fillParameters_gaining w hgains, log_eq_after,
        (hw.after _ _ _ _).records.perform_write]
      simp

/-- Filling parameters succeeds where the store takes what is filled. -/
theorem perform_fillParameters_taken (w : World) (topic : Topic) (snapshot : Snapshot)
    (htaken : topic.parameters.gainsFrom snapshot = true →
      (w.store.write (topic.completedBy snapshot)
        (.parameters (topic.parameters.completedBy snapshot))).1 = .ok ()) :
    ∃ after, w.perform topic (fillParameters snapshot) =
      ⟨.ok (topic.parameters.gainsFrom snapshot), topic.completedBy snapshot, after⟩ := by
  cases hgains : topic.parameters.gainsFrom snapshot with
  | false =>
      rw [perform_fillParameters_idle w hgains, Topic.completedBy_of_not_gainsFrom hgains]
      exact ⟨w, rfl⟩
  | true =>
      rw [perform_fillParameters_gaining w hgains, perform_write]
      -- An event that was logged makes no difference to the store.
      show ∃ after, Ran.andThen ⟨(w.store.write _ _).1.mapError _, _, _⟩ _ = _
      rw [htaken hgains]
      exact ⟨_, rfl⟩

theorem perform_fetchAttributes (hw : w.Unhindered) (topic : Topic) (identity : String) :
    w.perform topic (ask (.fetchAttributes identity)) =
      ⟨.ok (.ok (w.remote.fetchAttributes identity)), topic, w⟩ := by
  rw [perform_ask, answer, hw.call, World.after, Store.record_nil]

theorem perform_fetchTags (hw : w.Unhindered) (topic : Topic) (identity : String) :
    w.perform topic (ask (.fetchTags identity)) =
      ⟨.ok (.ok (w.remote.fetchTags identity)), topic, w⟩ := by
  rw [perform_ask, answer, hw.call, World.after, Store.record_nil]

/-- Where the recorded remote topic is, it is read, and filling the parameters is all that is left of
the observation. -/
theorem perform_observe_read (hw : w.Unhindered)
    (hfound : w.remote.recordedBy topic = some (identity, found)) :
    w.perform topic observe =
      (w.perform topic (fillParameters (found.snapshot identity))).andThen fun filled => do
        return .present identity (found.snapshot identity)
          (isUpToDate (← get).parameters (found.snapshot identity)) filled := by
  obtain ⟨hname, hget⟩ := Remote.recordedBy_eq_some_iff.1 hfound
  have hattributes : w.remote.fetchAttributes identity = .ok (Remote.report identity found) := by
    simp only [Remote.fetchAttributes, hget]
  have htags : w.remote.fetchTags identity = .ok found.tags := by
    simp only [Remote.fetchTags, hget]
  have hread : w.perform topic (observeIdentity identity) =
      w.perform topic (observeTags identity (Remote.report identity found)) := by
    rw [observeIdentity, perform_bind, perform_fetchAttributes hw, hattributes]
    rfl
  simp only [observe, perform_bind, perform_get, andThen_ok, hname]
  rw [hread, observeTags, perform_bind, perform_fetchTags hw, htags]
  show w.perform topic (fillParameters (found.snapshot identity) >>= _) = _
  rw [perform_bind]
  rfl

/-- Where the recorded remote topic is, it is read, and the parameters are completed by it. -/
theorem perform_observe_present (hw : w.Calm)
    (hfound : w.remote.recordedBy topic = some (identity, found)) :
    ∃ events, w.perform topic observe =
      ⟨.ok (.present identity (found.snapshot identity)
          (isUpToDate (topic.parameters.completedBy (found.snapshot identity))
            (found.snapshot identity))
          (topic.parameters.gainsFrom (found.snapshot identity))),
        topic.completedBy (found.snapshot identity),
        w.after w.remote (topic.parameterWrites (found.snapshot identity)) w.clock events⟩ := by
  obtain ⟨events, hfill⟩ := perform_fillParameters hw topic (found.snapshot identity)
  refine ⟨events, ?_⟩
  rw [perform_observe_read hw.unhindered hfound, hfill]
  rfl

/-- Where no identity is recorded, or no remote topic has it, nothing is read. -/
theorem perform_observe_absent (hw : w.Calm) (hfound : w.remote.recordedBy topic = none) :
    ∃ events, w.perform topic observe =
      ⟨.ok .absent, topic, w.after w.remote [] w.clock events⟩ := by
  simp only [observe, perform_bind, perform_get, andThen_ok]
  cases hname : topic.externalName with
  | none =>
      refine ⟨w.events ++
        [⟨.debug, "no external name recorded, topic does not exist yet", []⟩], ?_⟩
      simp
  | some identity =>
      refine ⟨w.events ++
        [⟨.info, "remote topic does not exist", [("identity", identity)]⟩], ?_⟩
      have hget : w.remote.topics.get? identity = none := by
        cases hget : w.remote.topics.get? identity with
        | none => rfl
        | some rt => simp [Remote.recordedBy, hname, hget] at hfound
      have hattributes : w.remote.fetchAttributes identity = .error (.notFound identity) := by
        simp only [Remote.fetchAttributes, hget]
      show w.perform topic (observeIdentity identity) = _
      rw [observeIdentity, perform_bind, perform_fetchAttributes hw.unhindered, hattributes,
        ← log_eq_after]
      rfl

/-- A remote topic is created by one call, and its identity is recorded. -/
theorem perform_create_ok (hw : w.Calm) {remote : Remote}
    (hmutate : w.remote.mutate w.region topic.creation = (.ok identity, remote)) :
    ∃ events, w.perform topic create =
      ⟨.ok identity, topic.setExternalName identity,
        w.after remote [.externalName identity] w.clock events⟩ := by
  refine ⟨w.events ++ [⟨.info, "created remote topic", [("identity", identity)]⟩], ?_⟩
  simp only [create, perform_bind, perform_get, andThen_ok]
  rw [← Topic.creation, hw.unhindered.perform_mutate, andThen_ok]
  simp only [hmutate, perform_bind, perform_orElse_ok, andThen_ok]
  rw [(hw.after _ _ _ _).records.perform_write]
  simp

theorem perform_create_error (hw : w.Calm) {remote : Remote} {cause : RemoteError}
    (hmutate : w.remote.mutate w.region topic.creation = (.error cause, remote)) :
    w.perform topic create =
      ⟨.error (.createTopic topic.anyName cause), topic,
        w.after remote [] w.clock w.events⟩ := by
  simp only [create, perform_bind, perform_get, andThen_ok]
  rw [← Topic.creation, hw.unhindered.perform_mutate, andThen_ok]
  simp only [hmutate, perform_bind, perform_orElse_error, andThen_error]

/-- A remote topic that was seen is brought into line by the plan for it. -/
theorem perform_align (hw : w.Calm) (topic : Topic) (identity : String) (found : RemoteTopic) :
    ∃ events, w.perform (topic.completedBy (found.snapshot identity))
        (align identity (found.snapshot identity)
          (isUpToDate (topic.parameters.completedBy (found.snapshot identity))
            (found.snapshot identity))) =
      ⟨(w.remote.carryOut w.region (topic.parameters.planFor identity found)).1.map fun _ =>
          topic.parameters.outcomeFor identity found,
        topic.completedBy (found.snapshot identity),
        w.after (w.remote.carryOut w.region (topic.parameters.planFor identity found)).2 []
          w.clock events⟩ := by
  have hdone := topic.parameters.isUpToDate_iff_planFor_eq_nil identity found
  unfold align Parameters.outcomeFor
  by_cases hplan : topic.parameters.planFor identity found = []
  · refine ⟨w.events, ?_⟩
    rw [hdone.2 hplan, hplan]
    simp [Remote.carryOut, World.after, Except.map]
  · have hbehind : isUpToDate (topic.parameters.completedBy (found.snapshot identity))
        (found.snapshot identity) = false := by
      rw [← Bool.not_eq_true, hdone]
      exact hplan
    obtain ⟨events, hupdate⟩ := update_carriesOut identity (topic.parameters.verdictOn identity found)
      w (topic.completedBy (found.snapshot identity)) hw.unhindered
    refine ⟨events, ?_⟩
    rw [if_neg (fun h => hplan (List.isEmpty_iff.1 h))]
    simp only [hbehind, Bool.false_eq_true, if_false, perform_bind, perform_get, andThen_ok,
      Topic.parameters_completedBy]
    rw [← Parameters.verdictOn, hupdate, ← Parameters.planFor]
    obtain ⟨result, remote⟩ := w.remote.carryOut w.region (topic.parameters.planFor identity found)
    cases result with
    | ok value => rfl
    | error e => rfl

/-- A pass at a remote topic that is there carries out the plan for it, and the status tells how that
went. -/
theorem perform_reconcile_present (hw : w.Calm)
    (hfound : w.remote.recordedBy topic = some (identity, found)) {result : Except PassError Unit}
    {remote : Remote}
    (hcarry : w.remote.carryOut w.region (topic.parameters.planFor identity found) =
      (result, remote)) :
    ∃ events, w.perform topic reconcile =
      ⟨result.map fun _ => topic.parameters.outcomeFor identity found,
        (topic.completedBy (found.snapshot identity)).withStatus
          (topic.alignedStatus w.clock (found.snapshot identity) result),
        w.after remote (topic.parameterWrites (found.snapshot identity) ++
          topic.statusWrites (topic.alignedStatus w.clock (found.snapshot identity) result))
          w.clock.next events⟩ := by
  obtain ⟨seen, hobserve⟩ := perform_observe_present hw hfound
  obtain ⟨events, halign⟩ := perform_align
    (hw.after w.remote (topic.parameterWrites (found.snapshot identity)) w.clock seen)
    topic identity found
  simp only [after_remote, after_region, after_clock, after_after, List.append_nil, hcarry] at halign
  refine ⟨events, ?_⟩
  simp only [reconcile, converge, perform_bind, perform_attempt, hobserve, andThen_ok, halign]
  cases result with
  | ok value =>
      simp only [Except.map, andThen_ok, perform_bind, perform_nextStatus, perform_pure, after_clock,
        after_remote, after_after, List.append_nil, after_events]
      rw [perform_persistStatus (hw.after _ _ _ _).records]
      simp [Topic.alignedStatus, Topic.seenStatus]
  | error e =>
      simp only [Except.map, andThen_error, perform_bind]
      rw [perform_recordFailure (hw.after _ _ _ _).records]
      simp [Topic.alignedStatus, failureStatus]

/-- A pass without a remote topic creates it. -/
theorem perform_reconcile_absent (hw : w.Calm) (hfound : w.remote.recordedBy topic = none)
    {remote : Remote}
    (hmutate : w.remote.mutate w.region topic.creation = (.ok identity, remote)) :
    ∃ events, w.perform topic reconcile =
      ⟨.ok (.created identity),
        (topic.setExternalName identity).withStatus (topic.createdStatus w.clock),
        w.after remote (.externalName identity :: topic.statusWrites (topic.createdStatus w.clock))
          w.clock.next events⟩ := by
  obtain ⟨seen, hobserve⟩ := perform_observe_absent hw hfound
  obtain ⟨events, hcreate⟩ := perform_create_ok
    (hw.after w.remote [] w.clock seen) hmutate
  simp only [after_clock, after_after, List.nil_append] at hcreate
  refine ⟨events, ?_⟩
  simp only [reconcile, converge, perform_bind, perform_attempt, hobserve, andThen_ok, hcreate,
    perform_nextStatus, perform_pure, after_clock, after_remote, after_after, after_events,
    List.append_nil]
  rw [perform_persistStatus (hw.after _ _ _ _).records]
  simp [Topic.createdStatus]

/-- A pass that fails to create the remote topic records this. -/
theorem perform_reconcile_absent_error (hw : w.Calm) (hfound : w.remote.recordedBy topic = none)
    {remote : Remote} {cause : RemoteError}
    (hmutate : w.remote.mutate w.region topic.creation = (.error cause, remote)) :
    ∃ events, w.perform topic reconcile =
      ⟨.error (.createTopic topic.anyName cause),
        topic.withStatus (failureStatus w.clock topic (.createTopic topic.anyName cause)),
        w.after remote
          (topic.statusWrites (failureStatus w.clock topic (.createTopic topic.anyName cause)))
          w.clock.next events⟩ := by
  obtain ⟨seen, hobserve⟩ := perform_observe_absent hw hfound
  have hcreate := perform_create_error (hw.after w.remote [] w.clock seen) hmutate
  simp only [after_clock, after_after, after_events, List.append_nil] at hcreate
  refine ⟨seen, ?_⟩
  simp only [reconcile, converge, perform_bind, perform_attempt, hobserve, andThen_ok, hcreate,
    andThen_error]
  rw [perform_recordFailure (hw.after _ _ _ _).records]
  simp

end Lifecycle

end TopicOperator
