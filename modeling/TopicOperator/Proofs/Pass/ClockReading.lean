import TopicOperator.Proofs.Pass.Account
import TopicOperator.Proofs.Pass.Faultless
import TopicOperator.Proofs.Topic.Conditions

/-!
# What a pass makes of the clock

A pass reads the clock once, after everything else that it does at the remote service, and what it
read goes into the times of conditions only.  So where writes always succeed two passes that read
different times end alike, apart from those times.
-/

namespace TopicOperator

/-- A status apart from the times of its conditions. -/
def Status.untimed (s : Status) : Status :=
  { s with conditions := s.conditions.map Condition.untimed }

/-- A topic apart from the times of its conditions. -/
def Topic.untimed (t : Topic) : Topic :=
  { t with status := t.status.map Status.untimed }

namespace Condition

/-- A condition is settled to the same one at any time, but for the time. -/
theorem untimed_settle (now later : Instant) (old new : Option Condition) :
    (settle now old new).map untimed = (settle later old new).map untimed := by
  cases new with
  | none => rw [settle_none, settle_none]
  | some new =>
      obtain ⟨first, hfirst⟩ := settle_some now old new
      obtain ⟨second, hsecond⟩ := settle_some later old new
      rw [hfirst, hsecond]
      rfl

theorem untimed_advance (now later : Instant) (current updates : List Condition) :
    (advance now current updates).map untimed = (advance later current updates).map untimed := by
  simp only [advance_eq, List.map_append, ← Option.toList_map]
  rw [untimed_settle now later, untimed_settle now later]

end Condition

/-- The next status is the same at any time, but for its times. -/
theorem Status.untimed_next (now later : Instant) (current : Option Status)
    (updates : List Condition) (observation : Option Observation) :
    (next now current updates observation).untimed =
      (next later current updates observation).untimed := by
  unfold next untimed
  rw [Condition.untimed_advance now later]

theorem Topic.untimed_withStatus (t : Topic) {first second : Status}
    (h : first.untimed = second.untimed) :
    (t.withStatus first).untimed = (t.withStatus second).untimed := by
  simp only [untimed, withStatus, Option.map_some, h]

namespace World

variable {α : Type} {w : World}

theorem call_at (w : World) (now : Instant) (operation : Operation) (address : String)
    (act : Remote → Except RemoteError α × Remote) : (w.at now).call operation address act =
      ((w.call operation address act).1, (w.call operation address act).2.at now) := by
  obtain ⟨_, _, _, _, hworld, -⟩ := w.call_eq operation address act
  refine (w.call_elsewhere w.store now w.events operation address act).trans ?_
  rw [hworld]
  rfl

/-- Only the question for the time is answered from the clock. -/
theorem answer_at (w : World) (now : Instant) {q : Query} (hq : q ≠ .now) :
    (w.at now).answer q = ((w.answer q).1, (w.answer q).2.at now) := by
  cases q with
  | now => exact absurd rfl hq
  | fetchAttributes identity =>
      exact w.call_at now .getTopicAttributes identity fun r => (r.fetchAttributes identity, r)
  | fetchTags identity => exact w.call_at now .listTags identity fun r => (r.fetchTags identity, r)
  | mutate m => exact w.call_at now m.operation m.address fun r => r.mutate w.region m
  | connect place =>
      simp only [answer, connect, World.at]
      split <;> rfl
  | write | log | patchFinalizers => rfl

/-- A program that does not ask for the time goes the same way at any time. -/
theorem run_at (w : World) (now : Instant) {program : Program α}
    (h : ∀ e ∈ w.dialogue program, e.query ≠ .now) :
    (w.at now).run program = ((w.run program).1, (w.run program).2.at now) := by
  induction program generalizing w with
  | done result => rfl
  | ask query next ih =>
      obtain ⟨hquery, hrest⟩ := List.forall_mem_cons.1 h
      simp only [run, w.answer_at now hquery]
      exact ih _ _ hrest

theorem recording_answer (hw : w.Recording) (q : Query) : (w.answer q).2.Recording := by
  obtain ⟨writes, hstore⟩ := hw
  have hcall : ∀ {α : Type} (operation : Operation) (address : String)
      (act : Remote → Except RemoteError α × Remote),
      (w.call operation address act).2.Recording := by
    intro α operation address act
    obtain ⟨_, _, _, _, hworld, -⟩ := w.call_eq operation address act
    exact ⟨writes, (congrArg World.store hworld).trans hstore⟩
  cases q with
  | fetchAttributes identity => exact hcall _ identity fun r => (r.fetchAttributes identity, r)
  | fetchTags identity => exact hcall _ identity fun r => (r.fetchTags identity, r)
  | mutate m => exact hcall _ m.address fun r => r.mutate w.region m
  | write topic change =>
      refine ⟨writes ++ [change], ?_⟩
      show (w.store.write topic change).2 = _
      rw [hstore]
      rfl
  | connect place =>
      refine ⟨writes, ?_⟩
      simp only [answer, connect]
      cases w.connectRefusal <;> exact hstore
  | patchFinalizers space name steps =>
      refine ⟨writes, ?_⟩
      show (w.store.patchFinalizers space name steps).2 = _
      rw [hstore]
      rfl
  | now | log => exact ⟨writes, hstore⟩

theorem recording_perform (hw : w.Recording) (t : Topic) (work : Work α) :
    (w.perform t work).world.Recording := by
  have hallowed : ∀ e ∈ w.exchanges t work, True := fun _ _ => trivial
  exact (perform_keeps Recording (fun _ => True) (fun _ => True)
    (fun v q hv _ => ⟨recording_answer hv q, trivial⟩) hw hallowed).1

end World

namespace Lifecycle

open World Work

variable {w : World}

/-- Up to its reading of the clock a pass goes the same way at any time. -/
theorem perform_approach_at (w : World) (t : Topic) (now : Instant) :
    (w.at now).perform t approach =
      ⟨(w.perform t approach).result, (w.perform t approach).topic,
        (w.perform t approach).world.at now⟩ := by
  have hstage := (approach_staged t _ _ _ (w.unfolds t approach)).1
  have hrun := w.run_at now (hstage.follows.forall_query fun _ _ hq => hq.2)
  unfold perform
  rw [hrun]

/-- The status that a pass leaves, from what came out before it read the clock. -/
def statusAfter (now : Instant) (t : Topic) :
    Except PassError (Outcome × List Condition × Option Observation) → Status
  | .ok (_, updates, observation) => Status.next now t.status updates observation
  | .error e => failureStatus now t e

/-- Where writes always succeed, a pass adds nothing but the status to what came out before. -/
theorem perform_reconcile_recording (hw : w.Recording) (t : Topic) :
    (w.perform t reconcile).result = (w.perform t approach).result.map (·.1) ∧
      (w.perform t reconcile).topic = (w.perform t approach).topic.withStatus
        (statusAfter (w.perform t approach).world.clock (w.perform t approach).topic
          (w.perform t approach).result) ∧
      (w.perform t reconcile).world.remote = (w.perform t approach).world.remote := by
  have hstill := recording_perform hw t approach
  simp only [reconcile, converge_eq, perform_bind, perform_attempt, andThen_ok]
  generalize w.perform t approach = ran at hstill
  obtain ⟨result, topic, world⟩ := ran
  cases result with
  | ok done =>
      obtain ⟨outcome, updates, observation⟩ := done
      simp only [andThen_ok, perform_bind, perform_nextStatus, perform_pure]
      rw [perform_persistStatus (hstill.after _ _ _ _)]
      exact ⟨rfl, rfl, rfl⟩
  | error e =>
      simp only [andThen_error, perform_bind]
      rw [perform_recordFailure hstill]
      exact ⟨rfl, rfl, rfl⟩

/-- The times that a pass reads do not matter but for the times in the status, where writes always
succeed. -/
theorem perform_reconcile_at (hw : w.Recording) (t : Topic) (now : Instant) :
    ((w.at now).perform t reconcile).result = (w.perform t reconcile).result ∧
      ((w.at now).perform t reconcile).topic.untimed = (w.perform t reconcile).topic.untimed ∧
      ((w.at now).perform t reconcile).world.remote = (w.perform t reconcile).world.remote := by
  obtain ⟨hresult, htopic, hremote⟩ := perform_reconcile_recording hw t
  obtain ⟨hresult', htopic', hremote'⟩ := perform_reconcile_recording (w := w.at now) hw t
  rw [hresult, hresult', htopic, htopic', hremote, hremote', perform_approach_at]
  refine ⟨rfl, Topic.untimed_withStatus _ ?_, rfl⟩
  cases (w.perform t approach).result with
  | ok done => exact Status.untimed_next _ _ _ _ _
  | error e => exact Status.untimed_next _ _ _ _ _

end Lifecycle

end TopicOperator
