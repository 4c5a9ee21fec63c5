import TopicOperator.Proofs.Pass.Plan

/-!
# Carrying out plans

The calls of a plan are made one after the other until one fails.  While no failure was announced for
any of them they all revise the remote topic; the first one that a failure was announced for ends the
plan there, is logged, and takes the announcement with it.
-/

namespace TopicOperator.Remote

/-- Makes calls one after the other.  A call that fails is the last one. -/
def carryOut (region : String) : List Task → Remote → Except PassError Unit × Remote
  | [], remote => (.ok (), remote)
  | task :: rest, remote =>
      match remote.mutate region task.mutation with
      | (.ok _, remote) => carryOut region rest remote
      | (.error cause, remote) => (.error (task.failure cause), remote)

/-- The remote service after revisions of one of its topics. -/
def revise (remote : Remote) (identity : String) (topic : RemoteTopic) (ms : List Mutation) :
    Remote :=
  { remote with
    topics := remote.topics.insert identity (topic.revisedBy ms)
    calls := remote.calls ++ ms }

variable {region identity : String} {remote : Remote} {topic : RemoteTopic}

theorem carryOut_append (first second : List Task) :
    carryOut region (first ++ second) remote =
      match carryOut region first remote with
      | (.ok (), remote) => carryOut region second remote
      | (.error e, remote) => (.error e, remote) := by
  induction first generalizing remote with
  | nil => rfl
  | cons task rest ih =>
      rw [List.cons_append, carryOut, carryOut]
      obtain ⟨answer, after⟩ := remote.mutate region task.mutation
      cases answer with
      | ok _ => exact ih
      | error cause => rfl

theorem revise_nil (h : remote.topics.get? identity = some topic) :
    remote.revise identity topic [] = remote := by
  simp [revise, RemoteTopic.revisedBy, TextMap.insert_of_get? h]

theorem get?_revise (ms : List Mutation) :
    (remote.revise identity topic ms).topics.get? identity = some (topic.revisedBy ms) := by
  simp [revise]

theorem revise_revise (first second : List Mutation) :
    (remote.revise identity topic first).revise identity (topic.revisedBy first) second =
      remote.revise identity topic (first ++ second) := by
  simp [revise, RemoteTopic.revisedBy, TextMap.insert_insert]

/-- One revision that no failure was announced for. -/
theorem mutate_revision (region : String) {m : Mutation} (hm : m.Revises identity)
    (htopic : remote.topics.get? identity = some topic)
    (hfail : remote.failAt ≠ some remote.calls.length) :
    remote.mutate region m = (.ok identity, remote.revise identity topic [m]) := by
  rw [mutate_of_not_announced hfail, change_revision hm htopic]
  rfl

/-- Revisions that no failure was announced for are all carried out. -/
theorem carryOut_revisions {tasks : List Task}
    (htasks : ∀ task ∈ tasks, task.mutation.Revises identity)
    (htopic : remote.topics.get? identity = some topic)
    (hfail : ∀ k < tasks.length, remote.failAt ≠ some (remote.calls.length + k)) :
    carryOut region tasks remote =
      (.ok (), remote.revise identity topic (tasks.map Task.mutation)) := by
  induction tasks generalizing remote topic with
  | nil => rw [carryOut, List.map_nil, revise_nil htopic]
  | cons task rest ih =>
      have hhead := mutate_revision region (htasks task List.mem_cons_self) htopic
        (hfail 0 (Nat.succ_pos _))
      -- One call is logged now, so what was announced for none of the calls is so for the rest.
      have hrest : ∀ k < rest.length, (remote.revise identity topic [task.mutation]).failAt ≠
          some ((remote.revise identity topic [task.mutation]).calls.length + k) := by
        intro k hk
        have hlater := hfail (k + 1) (Nat.succ_lt_succ hk)
        simp only [revise, List.length_append, List.length_singleton]
        rw [Nat.add_assoc, Nat.add_comm 1 k]
        exact hlater
      rw [carryOut, hhead]
      show carryOut region rest (remote.revise identity topic [task.mutation]) = _
      rw [ih (fun t ht => htasks t (List.mem_cons_of_mem _ ht)) (get?_revise _) hrest,
        revise_revise]
      rfl

/-- Revisions up to one that a failure was announced for: this one is logged and not carried out. -/
theorem carryOut_announced {done rest : List Task} {task : Task}
    (hdone : ∀ t ∈ done, t.mutation.Revises identity)
    (htopic : remote.topics.get? identity = some topic)
    (hfail : remote.failAt = some (remote.calls.length + done.length)) :
    ∃ cause, carryOut region (done ++ task :: rest) remote =
      (.error (task.failure cause),
        { (remote.revise identity topic (done.map Task.mutation)).logged task.mutation with
          failAt := none }) := by
  have hclear : ∀ k < done.length, remote.failAt ≠ some (remote.calls.length + k) := by
    intro k hk heq
    have hk' := hfail.symm.trans heq
    simp only [Option.some.injEq] at hk'
    omega
  have hlast : (remote.revise identity topic (done.map Task.mutation)).failAt =
      some (remote.revise identity topic (done.map Task.mutation)).calls.length := by
    simp [revise, hfail]
  rw [carryOut_append, carryOut_revisions hdone htopic hclear]
  simp only [carryOut, mutate_of_announced hlast]
  exact ⟨_, rfl⟩

end TopicOperator.Remote
