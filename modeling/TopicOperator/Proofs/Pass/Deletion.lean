import TopicOperator.Proofs.Pass.Continuation
import TopicOperator.Proofs.Topic.Conditions

/-!
# Deletion is complete and idempotent

A topic that is going away says so in its status and then makes one call, which deletes the remote topic
that it records; without an identity it makes none.  A remote topic that is gone already counts as
deleted.  So all cleanups of a topic end in the same way, and all but the first one have nothing left to
tell.  A failure that was announced for the call costs that cleanup only: the next one does what it
should have done.
-/

namespace TopicOperator

open World Work

/-- The calls that delete the remote topic of a topic. -/
def Topic.deletions (topic : Topic) : List Mutation :=
  topic.externalName.toList.map .delete

/-- The status which tells that the remote topic of a topic is about to be deleted. -/
def Topic.deletingStatus (topic : Topic) (now : Instant) : Status :=
  Status.next now topic.status [.deleting] none

namespace Remote

/-- The remote service without the remote topic of a topic, and with the call for this logged. -/
def without (remote : Remote) (topic : Topic) : Remote :=
  { remote with
    topics := topic.externalName.elim remote.topics remote.topics.erase
    calls := remote.calls ++ topic.deletions }

variable {remote : Remote} {topic : Topic} {identity : String}

theorem without_of_unrecorded (hname : topic.externalName = none) :
    remote.without topic = remote := by
  simp [without, Topic.deletions, hname]

theorem without_of_recorded (hname : topic.externalName = some identity) :
    remote.without topic =
      { remote.logged (.delete identity) with topics := remote.topics.erase identity } := by
  simp [without, logged, Topic.deletions, hname]

/-- What was taken away once is not there to be taken away again. -/
theorem topics_without_without (remote : Remote) (topic : Topic) :
    ((remote.without topic).without topic).topics = (remote.without topic).topics := by
  cases hname : topic.externalName with
  | none => rw [without_of_unrecorded hname, without_of_unrecorded hname]
  | some identity =>
      rw [without_of_recorded hname, without_of_recorded hname]
      exact TextMap.erase_erase _ _

/-- The call that deletes a remote topic leaves none, whether it finds one or not. -/
theorem mutate_deletion (hnow : remote.failAt ≠ some remote.calls.length) (region : String)
    (hname : topic.externalName = some identity) :
    remote.mutate region (.delete identity) =
      (if (remote.topics.get? identity).isSome then .ok identity else .error (.notFound identity),
        remote.without topic) := by
  rw [mutate_of_not_announced hnow, change_delete, without_of_recorded hname]

end Remote

namespace Lifecycle

variable {w : World} {topic : Topic} {identity : String}

/-- A deletion leaves no remote topic, and succeeds. -/
theorem perform_delete (hw : w.Unhindered) (hnow : w.remote.failAt ≠ some w.remote.calls.length)
    (topic : Topic) :
    ∃ events, w.perform topic delete =
      ⟨.ok (), topic, w.after (w.remote.without topic) [] w.clock events⟩ := by
  simp only [delete, perform_bind, perform_get, andThen_ok]
  cases hname : topic.externalName with
  | none =>
      rw [Remote.without_of_unrecorded hname, perform_log, log_eq_after]
      exact ⟨_, rfl⟩
  | some identity =>
      simp only [perform_bind]
      rw [hw.perform_mutate, Remote.mutate_deletion hnow w.region hname, andThen_ok]
      -- Both answers are only logged.
      cases (w.remote.topics.get? identity).isSome with
      | true =>
          refine ⟨w.events ++ [⟨.info, "deleted remote topic", [("identity", identity)]⟩], ?_⟩
          simp
      | false =>
          refine ⟨w.events ++
            [⟨.info, "remote topic was already deleted", [("identity", identity)]⟩], ?_⟩
          simp [RemoteError.isNotFound]

/-- The error of a deletion whose call is refused as it was announced. -/
def refusedDeletion (identity : String) (call : Nat) : PassError :=
  .deleteTopic identity (.transport Operation.deleteTopic.name (.injected call))

/-- A deletion whose call is refused leaves all remote topics. -/
theorem perform_delete_refused (hw : w.Unhindered)
    (hannounced : w.remote.failAt = some w.remote.calls.length)
    (hname : topic.externalName = some identity) :
    w.perform topic delete = ⟨.error (refusedDeletion identity w.remote.calls.length), topic,
      w.after { w.remote.logged (.delete identity) with failAt := none } [] w.clock w.events⟩ := by
  simp only [delete, perform_bind, perform_get, andThen_ok, hname]
  rw [hw.perform_mutate, Remote.mutate_of_announced hannounced]
  rfl

/-- The world in which a cleanup starts to delete: the status is told. -/
def announced (w : World) (topic : Topic) : World :=
  w.after w.remote (topic.statusWrites (topic.deletingStatus w.clock)) w.clock.next w.events

/-- A cleanup reads the clock and tells that the remote topic is about to be deleted before it does
anything else. -/
theorem perform_cleanup_eq (w : World) (topic : Topic) :
    w.perform topic cleanup =
      ((w.at w.clock.next).perform topic (persistStatus (topic.deletingStatus w.clock))).andThen
        fun _ => attempt delete >>= fun
          | .ok () => pure .deleted
          | .error e => recordFailure e >>= fun _ => throw e := by
  have hworld : w.after w.remote [] w.clock.next w.events = w.at w.clock.next := by
    rw [World.after, Store.record_nil]
    rfl
  simp only [cleanup, perform_bind, perform_nextStatus, andThen_ok, hworld]
  rfl

theorem perform_cleanup_announced (hw : w.Recording) (topic : Topic) :
    w.perform topic cleanup =
      ((announced w topic).perform (topic.withStatus (topic.deletingStatus w.clock))
        (attempt delete)).andThen (fun
          | .ok () => pure .deleted
          | .error e => recordFailure e >>= fun _ => throw e) := by
  have hlater : (w.at w.clock.next).Recording := hw
  rw [perform_cleanup_eq, perform_persistStatus hlater, andThen_ok, perform_bind]
  rfl

/-- A cleanup tells that the remote topic is about to be deleted, and then deletes it. -/
theorem perform_cleanup (hw : w.Calm) (hnow : w.remote.failAt ≠ some w.remote.calls.length)
    (topic : Topic) :
    ∃ events, w.perform topic cleanup =
      ⟨.ok .deleted, topic.withStatus (topic.deletingStatus w.clock),
        w.after (w.remote.without topic) (topic.statusWrites (topic.deletingStatus w.clock))
          w.clock.next events⟩ := by
  obtain ⟨events, hdelete⟩ := perform_delete (hw.after _ _ _ _).unhindered hnow
    (topic.withStatus (topic.deletingStatus w.clock))
  refine ⟨events, ?_⟩
  rw [perform_cleanup_announced hw.records, perform_attempt, announced, hdelete]
  simp
  rfl

/-- A cleanup whose call is refused tells this, and leaves all remote topics. -/
theorem perform_cleanup_refused (hw : w.Calm)
    (hannounced : w.remote.failAt = some w.remote.calls.length)
    (hname : topic.externalName = some identity) :
    ∃ status writes, w.perform topic cleanup =
      ⟨.error (refusedDeletion identity w.remote.calls.length), topic.withStatus status,
        w.after { w.remote.logged (.delete identity) with failAt := none } writes
          w.clock.next.next w.events⟩ := by
  have htold : (announced w topic).Calm := hw.after _ _ _ _
  have hdelete := @perform_delete_refused _ (topic.withStatus (topic.deletingStatus w.clock)) _
    htold.unhindered hannounced hname
  rw [perform_cleanup_announced hw.records, perform_attempt, hdelete, andThen_ok]
  simp only [perform_bind]
  rw [perform_recordFailure (htold.after _ _ _ _).records]
  simp only [andThen_ok, perform_throw, announced, after_after, after_remote, after_clock,
    after_events]
  exact ⟨_, _, rfl⟩

/-- What a cleanup leaves of a faultless world. -/
structure Cleaned (w : World) (topic : Topic) (ran : Ran Outcome) : Prop where
  faultless : ran.world.Faultless
  result : ran.result = .ok .deleted
  told : ran.topic = topic.withStatus (topic.deletingStatus w.clock)
  remote : ran.world.remote = w.remote.without topic
  store : ran.world.store = w.store.record (topic.statusWrites (topic.deletingStatus w.clock))

theorem cleaned_perform_cleanup (hw : w.Faultless) (topic : Topic) :
    Cleaned w topic (w.perform topic cleanup) := by
  have hnow : w.remote.failAt ≠ some w.remote.calls.length := by
    rw [hw.unannounced]
    exact nofun
  obtain ⟨events, h⟩ := perform_cleanup hw.toCalm hnow topic
  have hkept : (w.remote.without topic).failAt = none := hw.unannounced
  rw [h]
  exact ⟨hw.after hkept _ _ _, rfl, rfl, rfl, rfl⟩

/-- A status that tells of the deletion already is not told again. -/
theorem Cleaned.quiet {ran : Ran Outcome} (h : Cleaned w topic ran) {status : Status}
    (hstatus : topic.status = some status) (hshows : status.Shows [.deleting] none) :
    ran.topic = topic ∧ ran.world.store = w.store := by
  have hsame : topic.deletingStatus w.clock = status := by
    rw [Topic.deletingStatus, hstatus, hshows.next_eq]
  rw [h.told, h.store, hsame, Topic.withStatus_self hstatus, Topic.statusWrites, if_pos hstatus]
  exact ⟨rfl, Store.record_nil _⟩

/-- Cleanups over a topic, one after the other, each at its own time. -/
def cleanups (w : World) (topic : Topic) (clock : Nat → Instant) : Nat → Ran Outcome
  | 0 => (w.at (clock 0)).perform topic cleanup
  | n + 1 =>
      ((cleanups w topic clock n).world.at (clock (n + 1))).perform (cleanups w topic clock n).topic
        cleanup

/-- The remote topic of a topic is gone after some work, and the status tells of the deletion. -/
structure Gone (w : World) (topic : Topic) (ran : Ran Outcome) : Prop where
  faultless : ran.world.Faultless
  told : ∃ status, ran.topic = topic.withStatus status ∧ status.Shows [.deleting] none
  topics : ran.world.remote.topics = (w.remote.without topic).topics

variable {clock : Nat → Instant}

/-- What is gone stays so through a further cleanup. -/
theorem Gone.step {ran : Ran Outcome} (h : Gone w topic ran) (now : Instant) :
    Gone w topic ((ran.world.at now).perform ran.topic cleanup) := by
  obtain ⟨status, htopic, hshows⟩ := h.told
  have hcleaned := cleaned_perform_cleanup (h.faultless.at now) ran.topic
  have hstatus : ran.topic.status = some status := by
    rw [htopic]
    rfl
  refine ⟨hcleaned.faultless, ⟨status, ?_, hshows⟩, ?_⟩
  · rw [(hcleaned.quiet hstatus hshows).1, htopic]
  · rw [hcleaned.remote, htopic]
    show topic.externalName.elim ran.world.remote.topics ran.world.remote.topics.erase = _
    rw [h.topics]
    exact w.remote.topics_without_without topic

/-- After any number of cleanups the remote topic is gone. -/
theorem gone_cleanups (hw : w.Faultless) (topic : Topic) (clock : Nat → Instant) (n : Nat) :
    Gone w topic (cleanups w topic clock n) := by
  induction n with
  | zero =>
      have hcleaned := cleaned_perform_cleanup (hw.at (clock 0)) topic
      refine ⟨hcleaned.faultless, ⟨_, hcleaned.told, Status.shows_next _ _ _ _⟩, ?_⟩
      rw [cleanups, hcleaned.remote]
      rfl
  | succ n ih => exact ih.step (clock (n + 1))

/-- How cleanups of a topic go, one after the other. -/
structure DeletedForGood (before : Remote) (topic : Topic) (run : Nat → Ran Outcome) : Prop where
  /-- Every cleanup succeeds. -/
  succeeds : ∀ n, (run n).result = .ok .deleted
  /-- The remote topic that was recorded is gone, and all others are left. -/
  topics : ∀ n, (run n).world.remote.topics =
    topic.externalName.elim before.topics before.topics.erase
  /-- The topic keeps its parameters and its annotations. -/
  kept : ∀ n, (run n).topic.spec = topic.spec ∧ (run n).topic.metadata = topic.metadata
  /-- The topic is said to be about to be deleted. -/
  told : ∀ n, ∃ time, Condition.latest .ready (run n).topic.conditions =
    some { Condition.deleting with lastTransition := some time }
  /-- The first cleanup makes one call if an identity is recorded, and otherwise none. -/
  first : (run 0).world.remote.calls = before.calls ++ topic.deletions
  /-- Every further cleanup makes the same call, writes nothing and leaves the topic as it is. -/
  again : ∀ n, (run (n + 1)).world.remote.calls = (run n).world.remote.calls ++ topic.deletions ∧
    (run (n + 1)).world.store = (run n).world.store ∧ (run (n + 1)).topic = (run n).topic

theorem deletedForGood_cleanups (hw : w.Faultless) (topic : Topic) (clock : Nat → Instant) :
    DeletedForGood w.remote topic (cleanups w topic clock) where
  succeeds n := by
    cases n with
    | zero => exact (cleaned_perform_cleanup (hw.at _) topic).result
    | succ n => exact (cleaned_perform_cleanup ((gone_cleanups hw topic clock n).faultless.at _) _).result
  topics n := (gone_cleanups hw topic clock n).topics
  kept n := by
    obtain ⟨status, htopic, -⟩ := (gone_cleanups hw topic clock n).told
    rw [htopic]
    exact ⟨rfl, rfl⟩
  told n := by
    obtain ⟨status, htopic, hshows⟩ := (gone_cleanups hw topic clock n).told
    rw [htopic]
    exact hshows.asked .ready .deleting rfl
  first := by
    have hcleaned := cleaned_perform_cleanup (hw.at (clock 0)) topic
    rw [cleanups, hcleaned.remote]
    rfl
  again n := by
    obtain ⟨hfaultless, ⟨status, htopic, hshows⟩, -⟩ := gone_cleanups hw topic clock n
    have hcleaned := cleaned_perform_cleanup (hfaultless.at (clock (n + 1)))
      (cleanups w topic clock n).topic
    have hstatus : (cleanups w topic clock n).topic.status = some status := by
      rw [htopic]
      rfl
    obtain ⟨hsame, hstore⟩ := hcleaned.quiet hstatus hshows
    refine ⟨?_, hstore, hsame⟩
    rw [cleanups, hcleaned.remote, htopic]
    rfl

/-- How cleanups go does not depend on the status that the topic starts with. -/
theorem DeletedForGood.of_withStatus {before : Remote} {status : Status} {run : Nat → Ran Outcome}
    (h : DeletedForGood before (topic.withStatus status) run) : DeletedForGood before topic run :=
  ⟨h.succeeds, h.topics, h.kept, h.told, h.first, h.again⟩

/-- Any topic is deleted for good in any faultless world, however often it is cleaned up.  Where a
failure is announced for the call that deletes the remote topic, the cleanup fails and leaves all
remote topics, and the ones after it leave what it would have left. -/
theorem deletion_complete_and_idempotent (hw : w.Faultless) (topic : Topic)
    (clock : Nat → Instant) :
    DeletedForGood w.remote topic (cleanups w topic clock) ∧
      ∀ identity, topic.externalName = some identity →
        let failed := (w.withFailure 0).perform topic cleanup
        let retried := cleanups failed.world failed.topic clock
        failed.result = .error (refusedDeletion identity w.remote.calls.length) ∧
          failed.world.remote.topics = w.remote.topics ∧
          DeletedForGood failed.world.remote topic retried ∧
          ∀ n, (retried n).world.remote.topics = (w.perform topic cleanup).world.remote.topics := by
  refine ⟨deletedForGood_cleanups hw topic clock, fun identity hname => ?_⟩
  obtain ⟨status, writes, hfailed⟩ := perform_cleanup_refused (hw.toCalm.withFailure 0) rfl hname
  rw [hfailed]
  intro failed retried
  have hnext : failed.world.Faultless := ⟨(hw.toCalm.withFailure 0).after _ _ _ _, rfl⟩
  have hretried : DeletedForGood failed.world.remote topic retried :=
    (deletedForGood_cleanups hnext (topic.withStatus status) clock).of_withStatus
  refine ⟨rfl, rfl, hretried, fun n => ?_⟩
  rw [hretried.topics, (cleaned_perform_cleanup hw topic).remote]
  rfl

theorem deletion_complete_and_idempotent_drifted :
    driftedWorld.Faultless ∧ driftedTopic.externalName = some "arn:orders" ∧
      DeletedForGood driftedWorld.remote driftedTopic
        (cleanups driftedWorld driftedTopic fun n => ⟨n⟩) ∧
      let failed := (driftedWorld.withFailure 0).perform driftedTopic cleanup
      failed.world.remote.topics = driftedWorld.remote.topics ∧
        ∀ n, (cleanups failed.world failed.topic (fun n => ⟨n⟩) n).world.remote.topics = .empty := by
  have hname : driftedTopic.externalName = some "arn:orders" := by decide
  have hempty : (driftedWorld.perform driftedTopic cleanup).world.remote.topics = .empty := by decide
  obtain ⟨hdeleted, hfailure⟩ :=
    deletion_complete_and_idempotent driftedWorld_faultless driftedTopic fun n => ⟨n⟩
  obtain ⟨-, hkept, -, htopics⟩ := hfailure _ hname
  exact ⟨driftedWorld_faultless, hname, hdeleted, hkept, fun n => (htopics n).trans hempty⟩

end Lifecycle

end TopicOperator
