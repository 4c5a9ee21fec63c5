import TopicOperator.Proofs.Pass.Faultless
import TopicOperator.Proofs.Topic.Conditions

/-!
# Passes come to rest

Passes over one topic, one after the other, while time goes on and nothing else touches the remote
service.  Where there is no remote topic the first pass creates one; a pass whose plan is not empty
leaves a remote topic whose plan is empty; a pass whose plan is empty completes the parameters and
tells the status, and from then on there is nothing left to do or to tell.
-/

namespace TopicOperator

/-- The remote topic that a topic records is there and needs no call. -/
def InLine (remote : Remote) (topic : Topic) : Prop :=
  ∃ identity found, remote.recordedBy topic = some (identity, found) ∧
    topic.parameters.planFor identity found = []

/-- A topic in line whose parameters are complete and whose status tells what there is to tell. -/
structure AtRest (remote : Remote) (topic : Topic) (identity : String) (found : RemoteTopic) :
    Prop where
  recorded : remote.recordedBy topic = some (identity, found)
  inLine : topic.parameters.planFor identity found = []
  complete : topic.parameters.gainsFrom (found.snapshot identity) = false
  told : ∀ now, topic.status = some (topic.seenStatus now (found.snapshot identity))

/-- Nothing is left to do about a topic. -/
def Settled (remote : Remote) (topic : Topic) : Prop :=
  ∃ identity found, AtRest remote topic identity found

namespace Lifecycle

open World

variable {w : World} {topic : Topic}

/-- A pass over a settled topic finds nothing to do, and changes nothing but clock and log. -/
theorem perform_reconcile_settled (hw : w.Faultless) (hsettled : Settled w.remote topic) :
    ∃ events, w.perform topic reconcile =
      ⟨.ok .unchanged, topic, w.after w.remote [] w.clock.next events⟩ := by
  obtain ⟨identity, found, hrest⟩ := hsettled
  obtain ⟨events, h⟩ := perform_reconcile_seen hw hrest.recorded
  obtain ⟨-, hget⟩ := Remote.recordedBy_eq_some_iff.1 hrest.recorded
  have hcalls := Parameters.callsFor_of_inLine hrest.inLine
  have hparameters : topic.parameterWrites (found.snapshot identity) = [] :=
    if_neg (Bool.eq_false_iff.1 hrest.complete)
  have hstatus : topic.statusWrites (topic.seenStatus w.clock (found.snapshot identity)) = [] :=
    if_pos (hrest.told w.clock)
  refine ⟨events, ?_⟩
  rw [h, hcalls, hparameters, hstatus, Remote.revise_nil hget,
    Topic.completedBy_of_not_gainsFrom hrest.complete, Topic.withStatus_self (hrest.told w.clock),
    Parameters.outcomeFor_of_inLine hrest.inLine, List.append_nil]

/-- A pass over a topic in line makes no call, and settles it. -/
theorem perform_reconcile_inLine (hw : w.Faultless) (hline : InLine w.remote topic) :
    (w.perform topic reconcile).result = .ok .unchanged ∧
      Settled (w.perform topic reconcile).world.remote (w.perform topic reconcile).topic := by
  obtain ⟨identity, found, hfound, hplan⟩ := hline
  obtain ⟨events, h⟩ := perform_reconcile_seen hw hfound
  have hcalls := Parameters.callsFor_of_inLine hplan
  rw [h, Parameters.outcomeFor_of_inLine hplan]
  refine ⟨rfl, identity, found, ?_, ?_, ?_, ?_⟩
  · have hrecorded := Remote.recordedBy_revise hfound
      (topic.parameters.callsFor identity found) (found.snapshot identity)
      (topic.seenStatus w.clock (found.snapshot identity))
    rw [hcalls] at hrecorded ⊢
    exact hrecorded
  · show (topic.parameters.completedBy (found.snapshot identity)).planFor identity found = []
    rw [Parameters.planFor_completedBy, hplan]
  · exact Parameters.not_gainsFrom_completedBy topic.parameters (found.snapshot identity)
  · -- The clock has gone on, but a status that was told is the next one of itself.
    intro now
    have hagain := Status.next_next w.clock now topic.status [.available, .reconcileSuccess]
      (Observation.ofAttributes (found.snapshot identity).attributes)
    exact congrArg some hagain.symm

/-- A pass over a topic behind brings it into line. -/
theorem perform_reconcile_behind (hw : w.Faultless) {identity : String} {found : RemoteTopic}
    (hfound : w.remote.recordedBy topic = some (identity, found))
    (hplan : topic.parameters.planFor identity found ≠ []) :
    (∃ attributes added removed,
        (w.perform topic reconcile).result = .ok (.updated attributes added removed)) ∧
      InLine (w.perform topic reconcile).world.remote (w.perform topic reconcile).topic := by
  obtain ⟨events, h⟩ := perform_reconcile_seen hw hfound
  rw [h, Parameters.outcomeFor_of_behind hplan]
  refine ⟨⟨_, _, _, rfl⟩, identity,
    found.revisedBy (topic.parameters.callsFor identity found), ?_, ?_⟩
  · exact Remote.recordedBy_revise hfound _ _ _
  · -- The plan was made by the completed parameters already, and they make no other one now.
    have hcalls : (topic.parameters.completedBy (found.snapshot identity)).callsFor identity found =
        topic.parameters.callsFor identity found := by
      rw [Parameters.callsFor, Parameters.planFor_completedBy]
      rfl
    have hempty := (topic.parameters.completedBy (found.snapshot identity)).planFor_revisedBy_callsFor
      identity found
    rw [hcalls] at hempty
    exact hempty

/-- A pass over a topic without a remote topic creates one. -/
theorem perform_reconcile_missing (hw : w.Faultless) (hfound : w.remote.recordedBy topic = none) :
    (∃ identity, (w.perform topic reconcile).result = .ok (.created identity)) ∧
      (w.perform topic reconcile).world.remote.recordedBy (w.perform topic reconcile).topic ≠
        none := by
  obtain ⟨events, h⟩ := perform_reconcile_created hw hfound
  obtain ⟨found, hrecorded⟩ := w.remote.recordedBy_created w.region topic
    (topic.createdStatus w.clock)
  rw [h]
  refine ⟨⟨_, rfl⟩, ?_⟩
  show (w.remote.created w.region topic).recordedBy _ ≠ none
  rw [hrecorded]
  exact nofun

/-- What a pass leaves unchanged is settled. -/
theorem settled_of_unchanged (hw : w.Faultless)
    (hresult : (w.perform topic reconcile).result = .ok .unchanged) :
    Settled (w.perform topic reconcile).world.remote (w.perform topic reconcile).topic := by
  cases hfound : w.remote.recordedBy topic with
  | none =>
      obtain ⟨⟨identity, hcreated⟩, -⟩ := perform_reconcile_missing hw hfound
      rw [hcreated] at hresult
      cases hresult
  | some recorded =>
      obtain ⟨identity, found⟩ := recorded
      by_cases hplan : topic.parameters.planFor identity found = []
      · exact (perform_reconcile_inLine hw ⟨identity, found, hfound, hplan⟩).2
      · obtain ⟨⟨attributes, added, removed, hupdated⟩, -⟩ := perform_reconcile_behind hw hfound hplan
        rw [hupdated] at hresult
        cases hresult

/-- Passes over a topic, one after the other, each at its own time. -/
def passes (w : World) (topic : Topic) (clock : Nat → Instant) : Nat → Ran Outcome
  | 0 => (w.at (clock 0)).perform topic reconcile
  | n + 1 => again (passes w topic clock n) (clock (n + 1))

variable {clock : Nat → Instant}

/-- Later passes are passes from where an earlier one ended. -/
theorem passes_add (w : World) (topic : Topic) (clock : Nat → Instant) (n k : Nat) :
    passes w topic clock (n + 1 + k) =
      passes (passes w topic clock n).world (passes w topic clock n).topic
        (fun j => clock (n + 1 + j)) k := by
  induction k with
  | zero => rfl
  | succ k ih =>
      rw [← Nat.add_assoc, passes, passes, ih]
      rfl

/-- All passes but the first are passes from where the first one ended. -/
theorem passes_succ (w : World) (topic : Topic) (clock : Nat → Instant) (n : Nat) :
    passes w topic clock (n + 1) =
      passes (passes w topic clock 0).world (passes w topic clock 0).topic
        (fun j => clock (1 + j)) n := by
  rw [Nat.add_comm]
  exact passes_add w topic clock 0 n

theorem faultless_passes (hw : w.Faultless) (topic : Topic) (clock : Nat → Instant) (n : Nat) :
    (passes w topic clock n).world.Faultless := by
  induction n with
  | zero => exact faultless_perform_reconcile (hw.at _) topic
  | succ n ih => exact faultless_perform_reconcile (ih.at _) _

/-- Passes over a settled topic all find nothing to do, and leave everything as it is. -/
theorem passes_settled (hw : w.Faultless) (hsettled : Settled w.remote topic) (n : Nat) :
    (passes w topic clock n).result = .ok .unchanged ∧
      (passes w topic clock n).topic = topic ∧
        (passes w topic clock n).world.remote = w.remote ∧
          (passes w topic clock n).world.store = w.store := by
  induction n with
  | zero =>
      obtain ⟨events, h⟩ := perform_reconcile_settled (hw.at (clock 0)) hsettled
      rw [passes, h]
      exact ⟨rfl, rfl, rfl, Store.record_nil w.store⟩
  | succ n ih =>
      obtain ⟨-, htopic, hremote, hstore⟩ := ih
      -- Being settled depends on topic and remote service only, and neither of them changed.
      have hstill : Settled ((passes w topic clock n).world.at (clock (n + 1))).remote
          (passes w topic clock n).topic := by
        show Settled (passes w topic clock n).world.remote _
        rw [hremote, htopic]
        exact hsettled
      obtain ⟨events, h⟩ := perform_reconcile_settled
        ((faultless_passes hw topic clock n).at (clock (n + 1))) hstill
      rw [passes, again, h]
      refine ⟨rfl, htopic, hremote, ?_⟩
      rw [← hstore]
      exact Store.record_nil _

/-- Passes over a topic in line are all unchanged. -/
theorem passes_inLine (hw : w.Faultless) (hline : InLine w.remote topic) (n : Nat) :
    (passes w topic clock n).result = .ok .unchanged := by
  obtain ⟨hresult, hsettled⟩ := perform_reconcile_inLine (hw.at (clock 0)) hline
  cases n with
  | zero => exact hresult
  | succ n =>
      rw [passes_succ]
      exact (passes_settled (faultless_passes hw topic clock 0) hsettled n).1

/-- Passes over a topic whose remote topic is there are at most one update and then unchanged. -/
theorem passes_present (hw : w.Faultless) (hfound : w.remote.recordedBy topic ≠ none)
    (clock : Nat → Instant) :
    ∃ updated : List Outcome, updated.length ≤ 1 ∧
      (∀ outcome ∈ updated, ∃ attributes added removed,
        outcome = .updated attributes added removed) ∧
      ∀ n, (passes w topic clock n).result = .ok (updated.getD n .unchanged) := by
  cases hrecorded : w.remote.recordedBy topic with
  | none => exact absurd hrecorded hfound
  | some recorded =>
      obtain ⟨identity, found⟩ := recorded
      by_cases hplan : topic.parameters.planFor identity found = []
      · refine ⟨[], Nat.zero_le 1, nofun, ?_⟩
        intro n
        rw [List.getD_nil]
        exact passes_inLine hw ⟨identity, found, hrecorded, hplan⟩ n
      · obtain ⟨⟨attributes, added, removed, hresult⟩, hline⟩ :=
          perform_reconcile_behind (hw.at (clock 0)) hrecorded hplan
        refine ⟨[.updated attributes added removed], Nat.le_refl 1, ?_, ?_⟩
        · intro outcome houtcome
          exact ⟨attributes, added, removed, List.mem_singleton.1 houtcome⟩
        · intro n
          cases n with
          | zero => exact hresult
          | succ n =>
              rw [List.getD_cons_succ, List.getD_nil, passes_succ]
              exact passes_inLine (faultless_passes hw topic clock 0) hline n

/-- The outcomes of any passes: at most one creation, first, then at most one update, then
unchanged. -/
theorem passes_outcomes (hw : w.Faultless) (topic : Topic) (clock : Nat → Instant) :
    ∃ created updated : List Outcome,
      created.length ≤ 1 ∧ (∀ outcome ∈ created, ∃ identity, outcome = .created identity) ∧
      updated.length ≤ 1 ∧
      (∀ outcome ∈ updated, ∃ attributes added removed,
        outcome = .updated attributes added removed) ∧
      ∀ n, (passes w topic clock n).result = .ok ((created ++ updated).getD n .unchanged) := by
  cases hfound : w.remote.recordedBy topic with
  | some recorded =>
      have hpresent : w.remote.recordedBy topic ≠ none := by
        rw [hfound]
        exact nofun
      obtain ⟨updated, hlength, hkind, hresults⟩ := passes_present hw hpresent clock
      exact ⟨[], updated, Nat.zero_le 1, nofun, hlength, hkind, hresults⟩
  | none =>
      obtain ⟨⟨identity, hresult⟩, hpresent⟩ := perform_reconcile_missing (hw.at (clock 0)) hfound
      obtain ⟨updated, hlength, hkind, hresults⟩ := passes_present
        (faultless_passes hw topic clock 0) hpresent (fun j => clock (1 + j))
      refine ⟨[.created identity], updated, Nat.le_refl 1, ?_, hlength, hkind, ?_⟩
      · intro outcome houtcome
        exact ⟨identity, List.mem_singleton.1 houtcome⟩
      · intro n
        cases n with
        | zero => exact hresult
        | succ n =>
            rw [List.singleton_append, List.getD_cons_succ, passes_succ]
            exact hresults n

/-- After an unchanged pass everything stays as that pass left it. -/
theorem passes_after_unchanged (hw : w.Faultless) (topic : Topic) (clock : Nat → Instant) {n : Nat}
    (hunchanged : (passes w topic clock n).result = .ok .unchanged) (k : Nat) :
    (passes w topic clock (n + 1 + k)).topic = (passes w topic clock n).topic ∧
      (passes w topic clock (n + 1 + k)).world.remote = (passes w topic clock n).world.remote ∧
      (passes w topic clock (n + 1 + k)).world.store = (passes w topic clock n).world.store := by
  have hsettled : Settled (passes w topic clock n).world.remote (passes w topic clock n).topic := by
    cases n with
    | zero => exact settled_of_unchanged (hw.at _) hunchanged
    | succ n => exact settled_of_unchanged ((faultless_passes hw topic clock n).at _) hunchanged
  rw [passes_add]
  exact (passes_settled (faultless_passes hw topic clock n) hsettled k).2

/-- Passes come to rest: every pass succeeds, the outcomes are at most one creation, as the first of
them, then at most one update, and then unchanged for good; and what comes after an unchanged pass
makes no call, writes nothing, and leaves topic and remote service as they are. -/
structure ComesToRest (pass : Nat → Ran Outcome) : Prop where
  outcomes : ∃ created updated : List Outcome,
    created.length ≤ 1 ∧ (∀ outcome ∈ created, ∃ identity, outcome = .created identity) ∧
    updated.length ≤ 1 ∧
    (∀ outcome ∈ updated, ∃ attributes added removed,
      outcome = .updated attributes added removed) ∧
    ∀ n, (pass n).result = .ok ((created ++ updated).getD n .unchanged)
  quiet : ∀ n m, n < m → (pass n).result = .ok .unchanged →
    (pass m).topic = (pass n).topic ∧ (pass m).world.remote = (pass n).world.remote ∧
      (pass m).world.store = (pass n).world.store

/-- Passes over any topic come to rest in any faultless world, at whatever times they start. -/
theorem passes_converge (hw : w.Faultless) (topic : Topic) (clock : Nat → Instant) :
    ComesToRest (passes w topic clock) := by
  refine ⟨passes_outcomes hw topic clock, ?_⟩
  intro n m hlater hunchanged
  obtain ⟨k, rfl⟩ : ∃ k, m = n + 1 + k := ⟨m - (n + 1), by omega⟩
  exact passes_after_unchanged hw topic clock hunchanged k

theorem passes_converge_drifted :
    driftedWorld.Faultless ∧
      (passes driftedWorld driftedTopic (fun n => ⟨n⟩) 0).result = .ok (.updated 2 1 1) ∧
        ComesToRest (passes driftedWorld driftedTopic fun n => ⟨n⟩) := by
  have hw := driftedWorld_faultless
  exact ⟨hw, by decide, passes_converge hw driftedTopic _⟩

end Lifecycle

end TopicOperator
