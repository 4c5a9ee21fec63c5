import TopicOperator.Proofs.Pass.Faultless

/-!
# A pass that failed is continued by the next one

A failure is announced for one of the calls of a pass.  That pass makes the calls up to the announced
one and fails there; the next pass reads what was changed so far, and the plan that it makes is the
rest: it starts with the call that failed and ends with the remote topics that a pass without a
failure would have left.
-/

namespace TopicOperator

/-- A world without an announced failure. -/
def World.withoutFailure (w : World) : World :=
  { w with remote := { w.remote with failAt := none } }

/-- A world where a failure is announced for the call that comes after some others. -/
def World.withFailure (w : World) (n : Nat) : World :=
  { w with remote := w.remote.failOnCall n }

theorem World.Calm.faultless_withoutFailure {w : World} (hw : w.Calm) :
    w.withoutFailure.Faultless :=
  ⟨⟨hw.active, hw.undisturbed, hw.recording⟩, rfl⟩

theorem World.Calm.withFailure {w : World} (hw : w.Calm) (n : Nat) : (w.withFailure n).Calm :=
  ⟨hw.active, hw.undisturbed, hw.recording⟩

namespace Lifecycle

open World

variable {w : World} {topic : Topic} {identity : String} {found : RemoteTopic}

/-- Of two passes the first one fails at the call in some place of a list of calls, and the second
one makes that call and those after it, and leaves some remote topics. -/
structure Continues (before : Remote) (calls : List Mutation) (topics : TextMap RemoteTopic)
    (place : Nat) (first second : Ran Outcome) : Prop where
  fails : ∃ e, first.result = .error e
  made : first.world.remote.calls = before.calls ++ calls.take (place + 1)
  succeeds : ∃ outcome, second.result = .ok outcome
  goesOn : second.world.remote.calls = first.world.remote.calls ++ calls.drop place
  reaches : second.world.remote.topics = topics

/-- A failure announced for the creation is used up by it: the call is logged, and the topic keeps
everything but its status. -/
theorem failed_missing (hw : w.Calm) (hfound : w.remote.recordedBy topic = none) :
    ∃ e status, ((w.withFailure 0).perform topic reconcile).result = .error e ∧
      ((w.withFailure 0).perform topic reconcile).topic = topic.withStatus status ∧
      ((w.withFailure 0).perform topic reconcile).world.Faultless ∧
      ((w.withFailure 0).perform topic reconcile).world.region = w.region ∧
      ((w.withFailure 0).perform topic reconcile).world.remote =
        { w.remote.logged topic.creation with failAt := none } := by
  have hannounced : (w.withFailure 0).remote.failAt =
      some (w.withFailure 0).remote.calls.length := rfl
  obtain ⟨events, hfirst⟩ := perform_reconcile_absent_error (hw.withFailure 0) hfound
    (Remote.mutate_of_announced hannounced w.region topic.creation)
  rw [hfirst]
  exact ⟨_, _, rfl, rfl, ⟨(hw.withFailure 0).after _ _ _ _, rfl⟩, rfl, rfl⟩

/-- A failure announced for a call of a plan is used up by it: the calls before it are carried out,
the call is logged, and the topic has its parameters completed. -/
theorem failed_present (hw : w.Calm)
    (hfound : w.remote.recordedBy topic = some (identity, found)) {done rest : List Task}
    {task : Task} (hplan : topic.parameters.planFor identity found = done ++ task :: rest) :
    ∃ e status, ((w.withFailure done.length).perform topic reconcile).result = .error e ∧
      ((w.withFailure done.length).perform topic reconcile).topic =
        (topic.completedBy (found.snapshot identity)).withStatus status ∧
      ((w.withFailure done.length).perform topic reconcile).world.Faultless ∧
      ((w.withFailure done.length).perform topic reconcile).world.remote =
        { (w.remote.revise identity found (done.map Task.mutation)).logged task.mutation with
          failAt := none } := by
  obtain ⟨-, hget⟩ := Remote.recordedBy_eq_some_iff.1 hfound
  have hdone : ∀ t ∈ done, t.mutation.Revises identity := by
    intro t ht
    have hmem : t ∈ topic.parameters.planFor identity found := by
      rw [hplan]
      exact List.mem_append_left _ ht
    exact Verdict.revises_of_mem_plan hmem
  have hcarry : ∃ cause, (w.withFailure done.length).remote.carryOut w.region
      (topic.parameters.planFor identity found) =
        (.error (task.failure cause),
          { (w.remote.revise identity found (done.map Task.mutation)).logged task.mutation with
            failAt := none }) := by
    have hannounced : (w.withFailure done.length).remote.failAt =
        some ((w.withFailure done.length).remote.calls.length + done.length) := rfl
    rw [hplan]
    exact Remote.carryOut_announced hdone hget hannounced
  obtain ⟨cause, hcarry⟩ := hcarry
  obtain ⟨events, hfirst⟩ := perform_reconcile_present (hw.withFailure done.length) hfound hcarry
  rw [hfirst]
  exact ⟨_, _, rfl, rfl, ⟨(hw.withFailure done.length).after _ _ _ _, rfl⟩, rfl⟩

/-- The call that creates the remote topic is made again. -/
theorem continues_missing (hw : w.Calm) (hfound : w.remote.recordedBy topic = none)
    (later : Instant) :
    Continues w.remote [topic.creation] (w.remote.created w.region topic).topics 0
      ((w.withFailure 0).perform topic reconcile)
      (again ((w.withFailure 0).perform topic reconcile) later) := by
  obtain ⟨e, status, hresult, htopic, hnext, hregion, hremote⟩ := failed_missing hw hfound
  generalize (w.withFailure 0).perform topic reconcile = first at *
  have hstill : (first.world.at later).remote.recordedBy first.topic = none := by
    show first.world.remote.recordedBy first.topic = none
    rw [hremote, htopic]
    exact hfound
  have hsecond := remote_reconcile_created (hnext.at later) hstill
  refine ⟨⟨e, hresult⟩, ?_, reconcile_succeeds (hnext.at later) first.topic, ?_, ?_⟩
  · rw [hremote]
    rfl
  · rw [again, hsecond, htopic]
    rfl
  · rw [again, hsecond]
    show (first.world.remote.created first.world.region first.topic).topics = _
    rw [hremote, hregion, htopic]
    rfl

/-- The plan at a remote topic that is there is continued from the call that failed. -/
theorem continues_present (hw : w.Calm)
    (hfound : w.remote.recordedBy topic = some (identity, found)) (later : Instant)
    {done rest : List Task} {task : Task}
    (hplan : topic.parameters.planFor identity found = done ++ task :: rest) :
    Continues w.remote (topic.parameters.callsFor identity found)
      (w.remote.revise identity found (topic.parameters.callsFor identity found)).topics done.length
      ((w.withFailure done.length).perform topic reconcile)
      (again ((w.withFailure done.length).perform topic reconcile) later) := by
  obtain ⟨e, status, hresult, htopic, hnext, hremote⟩ := failed_present hw hfound hplan
  generalize (w.withFailure done.length).perform topic reconcile = first at *
  have hcalls : topic.parameters.callsFor identity found =
      done.map Task.mutation ++ (task :: rest).map Task.mutation := by
    rw [Parameters.callsFor, hplan, List.map_append]
  have hstill : (first.world.at later).remote.recordedBy first.topic =
      some (identity, found.revisedBy (done.map Task.mutation)) := by
    show first.world.remote.recordedBy first.topic = _
    rw [hremote, htopic]
    exact Remote.recordedBy_revise hfound (done.map Task.mutation) (found.snapshot identity) status
  -- The parameters that the first pass completed make the same plan, of which the rest is left.
  have hrest : first.topic.parameters.callsFor identity
      (found.revisedBy (done.map Task.mutation)) = (task :: rest).map Task.mutation := by
    have hcompleted : first.topic.parameters.planFor identity found = done ++ task :: rest := by
      rw [htopic, ← hplan]
      exact topic.parameters.planFor_completedBy identity found
    rw [Parameters.callsFor, Parameters.planFor_revisedBy done hcompleted]
  have hsecond := remote_reconcile_seen (hnext.at later) hstill
  rw [hrest] at hsecond
  refine ⟨⟨e, hresult⟩, ?_, reconcile_succeeds (hnext.at later) first.topic, ?_, ?_⟩
  · rw [hremote, hcalls, ← List.length_map Task.mutation, List.take_length_add_append]
    show w.remote.calls ++ done.map Task.mutation ++ [task.mutation] = _
    rw [List.append_assoc]
    rfl
  · rw [again, hsecond, hcalls, ← List.length_map Task.mutation, List.drop_left]
    rfl
  · rw [again, hsecond, hcalls]
    show (first.world.remote.revise _ _ _).topics = _
    rw [hremote, ← Remote.revise_revise]
    rfl

/-- A pass that fails at any of its calls is continued by the next one.  The calls that a pass without
a failure makes are taken as a list; where a failure is announced for one of them, the pass fails
there after the calls before it, and the next pass makes the others, from the one that failed on, and
leaves the same remote topics. -/
theorem reconcile_continues (hquiet : w.disturbances = [])
    (hstore : ∃ writes, w.store = .recording writes) (topic : Topic) (later : Instant) :
    ∃ calls, (w.withoutFailure.perform topic reconcile).world.remote.calls =
        w.remote.calls ++ calls ∧
      ∀ n < calls.length, Continues w.remote calls
        (w.withoutFailure.perform topic reconcile).world.remote.topics n
        ((w.withFailure n).perform topic reconcile)
        (again ((w.withFailure n).perform topic reconcile) later) := by
  cases hactive : w.cancelled with
  | true =>
      -- Nothing reaches the remote service, so there is no call to fail.
      have hremote := remote_perform_of_cancelled (w := w.withoutFailure) hactive topic reconcile
      refine ⟨[], ?_, nofun⟩
      rw [hremote, List.append_nil]
      rfl
  | false =>
      have hw : w.Calm := ⟨hactive, hquiet, hstore⟩
      have hwhole := hw.faultless_withoutFailure
      cases hfound : w.remote.recordedBy topic with
      | none =>
          have hremote := remote_reconcile_created hwhole hfound
          refine ⟨[topic.creation], ?_, ?_⟩
          · rw [hremote]
            rfl
          · intro n hn
            obtain rfl : n = 0 := Nat.lt_one_iff.1 hn
            rw [hremote]
            exact continues_missing hw hfound later
      | some recorded =>
          obtain ⟨identity, found⟩ := recorded
          have hremote := remote_reconcile_seen hwhole hfound
          refine ⟨topic.parameters.callsFor identity found, ?_, ?_⟩
          · rw [hremote]
            rfl
          · intro n hn
            rw [Parameters.callsFor, List.length_map] at hn
            -- The plan is cut before the call that fails.
            have hplan := List.take_append_drop n (topic.parameters.planFor identity found)
            rw [List.drop_eq_getElem_cons hn] at hplan
            have hlength := List.length_take_of_le (Nat.le_of_lt hn)
            have hcontinues := continues_present hw hfound later hplan.symm
            rw [hlength] at hcontinues
            rw [hremote]
            exact hcontinues

theorem reconcile_continues_drifted :
    driftedWorld.disturbances = [] ∧ (∃ writes, driftedWorld.store = .recording writes) ∧
      ∃ calls, calls.length = 4 ∧ ∀ n < 4, Continues driftedWorld.remote calls
        (driftedWorld.withoutFailure.perform driftedTopic reconcile).world.remote.topics n
        ((driftedWorld.withFailure n).perform driftedTopic reconcile)
        (again ((driftedWorld.withFailure n).perform driftedTopic reconcile) ⟨1⟩) := by
  obtain ⟨calls, hcalls, hcontinues⟩ :=
    reconcile_continues (w := driftedWorld) rfl ⟨[], rfl⟩ driftedTopic ⟨1⟩
  have hlength : calls.length = 4 := by
    have hwhole : (driftedWorld.withoutFailure.perform driftedTopic
        reconcile).world.remote.calls.length = 4 := by decide
    rw [← hwhole, hcalls]
    rfl
  rw [hlength] at hcontinues
  exact ⟨rfl, ⟨[], rfl⟩, calls, hlength, hcontinues⟩

end Lifecycle

end TopicOperator
