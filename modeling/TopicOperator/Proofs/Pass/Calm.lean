import TopicOperator.Proofs.Sync.Demand
import TopicOperator.Proofs.Work.Rules

/-!
# Calm worlds

A world is calm when its token is not cancelled, no disturbance waits for a call, and what is written
back is only recorded.  In a calm world every call reaches the remote service and every write
succeeds, so a pass fails only where the remote service itself refuses a call.  What a piece of work
leaves of a calm world is told by four things: the remote service, the writes it added, the clock and
the log of events.  Where nothing is written back it is enough that the world is unhindered: the token
is not cancelled, and no disturbance waits.
-/

namespace TopicOperator

/-- A store with further writes recorded. -/
def Store.record (added : List StoreWrite) : Store → Store
  | recording writes => recording (writes ++ added)
  | server manager api => server manager api

@[simp] theorem Store.record_nil (store : Store) : store.record [] = store := by
  cases store with
  | recording writes => rw [record, List.append_nil]
  | server manager api => rfl

@[simp] theorem Store.record_record (first second : List StoreWrite) (store : Store) :
    (store.record first).record second = store.record (first ++ second) := by
  cases store with
  | recording writes => rw [record, record, record, List.append_assoc]
  | server manager api => rfl

namespace Topic

/-- A topic with a status. -/
def withStatus (topic : Topic) (status : Status) : Topic :=
  { topic with status := some status }

/-- What is written back to give a topic a status: nothing if it has it already. -/
def statusWrites (topic : Topic) (status : Status) : List StoreWrite :=
  if topic.status = some status then [] else [.status status]

/-- A topic whose parameters are completed by a snapshot. -/
def completedBy (topic : Topic) (snapshot : Snapshot) : Topic :=
  topic.withParameters (topic.parameters.completedBy snapshot)

/-- What is written back when the parameters of a topic are completed. -/
def parameterWrites (topic : Topic) (snapshot : Snapshot) : List StoreWrite :=
  if topic.parameters.gainsFrom snapshot then
    [.parameters (topic.parameters.completedBy snapshot)]
  else []

theorem withStatus_self {topic : Topic} {status : Status} (h : topic.status = some status) :
    topic.withStatus status = topic := by
  obtain ⟨metadata, spec, _⟩ := topic
  obtain rfl : _ = some status := h
  rfl

@[simp] theorem status_completedBy (topic : Topic) (snapshot : Snapshot) :
    (topic.completedBy snapshot).status = topic.status := rfl

@[simp] theorem parameters_completedBy (topic : Topic) (snapshot : Snapshot) :
    (topic.completedBy snapshot).parameters = topic.parameters.completedBy snapshot := rfl

@[simp] theorem externalName_completedBy (topic : Topic) (snapshot : Snapshot) :
    (topic.completedBy snapshot).externalName = topic.externalName := rfl

@[simp] theorem statusWrites_completedBy (topic : Topic) (snapshot : Snapshot) (status : Status) :
    (topic.completedBy snapshot).statusWrites status = topic.statusWrites status := rfl

@[simp] theorem status_setExternalName (topic : Topic) (identity : String) :
    (topic.setExternalName identity).status = topic.status := rfl

@[simp] theorem statusWrites_setExternalName (topic : Topic) (identity : String) (status : Status) :
    (topic.setExternalName identity).statusWrites status = topic.statusWrites status := rfl

@[simp] theorem externalName_withStatus (topic : Topic) (status : Status) :
    (topic.withStatus status).externalName = topic.externalName := rfl

/-- A topic that a snapshot fills nothing of stays as it is. -/
theorem completedBy_of_not_gainsFrom {topic : Topic} {snapshot : Snapshot}
    (h : topic.parameters.gainsFrom snapshot = false) : topic.completedBy snapshot = topic := by
  unfold completedBy
  rw [Parameters.completedBy_of_not_gainsFrom h]
  rfl

end Topic

namespace World

/-- What is written back is only recorded. -/
def Recording (w : World) : Prop := ∃ writes, w.store = .recording writes

/-- No call is kept from the remote service. -/
structure Unhindered (w : World) : Prop where
  active : w.cancelled = false
  undisturbed : w.disturbances = []

/-- No call is kept from the remote service, and every write is recorded. -/
structure Calm (w : World) : Prop where
  active : w.cancelled = false
  undisturbed : w.disturbances = []
  recording : ∃ writes, w.store = .recording writes

/-- A world with another remote service, further writes, another time and other events. -/
def after (w : World) (remote : Remote) (added : List StoreWrite) (clock : Instant)
    (events : List Event) : World :=
  { w with remote := remote, store := w.store.record added, clock := clock, events := events }

section After

variable (w : World) (remote next : Remote) (added more : List StoreWrite) (clock later : Instant)
  (events others : List Event)

@[simp] theorem after_remote : (w.after remote added clock events).remote = remote := rfl

@[simp] theorem after_region : (w.after remote added clock events).region = w.region := rfl

@[simp] theorem after_clock : (w.after remote added clock events).clock = clock := rfl

@[simp] theorem after_events : (w.after remote added clock events).events = events := rfl

@[simp] theorem after_store :
    (w.after remote added clock events).store = w.store.record added := rfl

@[simp] theorem after_after :
    (w.after remote added clock events).after next more later others =
      w.after next (added ++ more) later others := by
  simp [after]

@[simp] theorem log_eq_after :
    w.log events = w.after w.remote [] w.clock (w.events ++ events) := by
  simp [log, after]

end After

namespace Recording

variable {w : World}

theorem after (hw : w.Recording) (remote : Remote) (added : List StoreWrite) (clock : Instant)
    (events : List Event) : (w.after remote added clock events).Recording := by
  obtain ⟨writes, hwrites⟩ := hw
  refine ⟨writes ++ added, ?_⟩
  rw [after_store, hwrites]
  rfl

/-- A write is recorded. -/
theorem perform_write (hw : w.Recording) (topic : Topic) (change : StoreWrite)
    (error : StoreError → PassError) :
    w.perform topic (Work.write change error) =
      ⟨.ok (), topic, w.after w.remote [change] w.clock w.events⟩ := by
  have hanswer : w.answer (.write topic change) =
      (.ok (), w.after w.remote [change] w.clock w.events) := by
    obtain ⟨writes, hwrites⟩ := hw
    simp only [answer, hwrites, Store.write, World.after, Store.record]
  simp only [Work.write, perform_bind, perform_get, perform_ask, andThen_ok]
  rw [hanswer]
  rfl

end Recording

namespace Unhindered

variable {w : World}

theorem after (hw : w.Unhindered) (remote : Remote) (added : List StoreWrite) (clock : Instant)
    (events : List Event) : (w.after remote added clock events).Unhindered :=
  ⟨hw.active, hw.undisturbed⟩

/-- A call reaches the remote service. -/
theorem call {α : Type} (hw : w.Unhindered) (operation : Operation) (address : String)
    (act : Remote → Except RemoteError α × Remote) :
    w.call operation address act =
      (.ok (act w.remote).1, w.after (act w.remote).2 [] w.clock w.events) := by
  have hthrough : w.encounter operation address = (.ok none, w) := by
    simp [encounter, hw.active, hw.undisturbed]
  rw [World.call, hthrough]
  simp [World.after]

theorem perform_mutate (hw : w.Unhindered) (topic : Topic) (m : Mutation) :
    w.perform topic (Work.mutate m) =
      ⟨.ok (w.remote.mutate w.region m).1, topic,
        w.after (w.remote.mutate w.region m).2 [] w.clock w.events⟩ := by
  simp only [Work.mutate, perform_bind, perform_ask, andThen_ok, answer]
  rw [hw.call]
  rfl

end Unhindered

namespace Calm

variable {w : World}

theorem unhindered (hw : w.Calm) : w.Unhindered := ⟨hw.active, hw.undisturbed⟩

theorem records (hw : w.Calm) : w.Recording := hw.recording

theorem after (hw : w.Calm) (remote : Remote) (added : List StoreWrite) (clock : Instant)
    (events : List Event) : (w.after remote added clock events).Calm :=
  ⟨hw.active, hw.undisturbed, hw.records.after remote added clock events⟩

end Calm

end World

namespace Lifecycle

open World

variable {w : World} {topic : Topic}

/-- The next status of a topic takes one reading of the clock. -/
theorem perform_nextStatus (w : World) (topic : Topic) (updates : List Condition)
    (observation : Option Observation) :
    w.perform topic (nextStatus updates observation) =
      ⟨.ok (Status.next w.clock topic.status updates observation), topic,
        w.after w.remote [] w.clock.next w.events⟩ := by
  have hanswer : w.answer .now = (w.clock, w.after w.remote [] w.clock.next w.events) := by
    rw [answer, World.after, Store.record_nil]
    rfl
  simp only [nextStatus, perform_bind, perform_get, perform_ask, andThen_ok]
  rw [hanswer]
  rfl

/-- The topic has the status in any case; it is written only if it is another one. -/
theorem perform_persistStatus (hw : w.Recording) (topic : Topic) (status : Status) :
    w.perform topic (persistStatus status) =
      ⟨.ok (), topic.withStatus status,
        w.after w.remote (topic.statusWrites status) w.clock w.events⟩ := by
  simp only [persistStatus, perform_bind, perform_get, andThen_ok]
  by_cases hsame : topic.status = some status
  · rw [if_pos hsame, perform_pure, Topic.withStatus_self hsame, Topic.statusWrites, if_pos hsame]
    simp [World.after]
  · rw [if_neg hsame, perform_bind, hw.perform_write, andThen_ok, perform_modify,
      Topic.statusWrites, if_neg hsame]
    rfl

/-- The conditions by which an error is recorded. -/
def failureConditions (error : PassError) : List Condition :=
  .reconcileError error.report :: if error.isCreateTopic then [.unavailable] else []

/-- The status that records an error. -/
def failureStatus (now : Instant) (topic : Topic) (error : PassError) : Status :=
  Status.next now topic.status (failureConditions error) none

theorem perform_recordFailure (hw : w.Recording) (topic : Topic) (error : PassError) :
    w.perform topic (recordFailure error) =
      ⟨.ok (), topic.withStatus (failureStatus w.clock topic error),
        w.after w.remote (topic.statusWrites (failureStatus w.clock topic error)) w.clock.next
          w.events⟩ := by
  simp only [recordFailure, perform_bind, perform_nextStatus, andThen_ok, perform_attempt]
  rw [perform_persistStatus (hw.after _ _ _ _)]
  simp [failureStatus, failureConditions]

end Lifecycle

end TopicOperator
