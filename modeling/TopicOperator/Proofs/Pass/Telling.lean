import TopicOperator.Proofs.Pass.Account

/-!
# How a pass ends

A pass that brought the remote topic into line, or failed to, tells this in the status; a cleanup
tells that the remote topic is about to be deleted before it does so, and afterwards only what went
wrong.  To tell a status is to write it once, unless the topic has it already.  A status that is
refused leaves the topic as it is.
-/

namespace TopicOperator

/-- What may be asked to tell a status. -/
def Query.TellsStatus : Query → Prop
  | now | log _ | write _ (.status _) => True
  | _ => False

theorem Query.TellsStatus.not_writesIdentity {q : Query} (h : q.TellsStatus) :
    ¬ q.WritesIdentity := by
  cases q with
  | write topic change =>
      cases change with
      | status s => exact not_false
      | parameters | externalName => exact absurd h not_false
  | _ => exact not_false

/-- A status was not taken. -/
def Dialogue.RefusesStatus (talk : Dialogue) : Prop :=
  ∃ topic status cause, ⟨.write topic (.status status), .error cause⟩ ∈ talk

namespace Dialogue

variable {talk first second : Dialogue}

theorem refusesStatus_append :
    RefusesStatus (first ++ second) ↔ first.RefusesStatus ∨ second.RefusesStatus := by
  simp only [RefusesStatus, List.mem_append, exists_or]

theorem not_refusesStatus (h : ∀ e ∈ talk, ¬ e.query.WritesStatus) : ¬ talk.RefusesStatus := by
  rintro ⟨topic, status, cause, hmem⟩
  exact h _ hmem trivial

theorem refusesStatus_now (now : Instant) :
    RefusesStatus (⟨.now, now⟩ :: talk) ↔ talk.RefusesStatus := by
  have hnot : ¬ RefusesStatus [⟨.now, now⟩] :=
    not_refusesStatus (List.forall_mem_singleton.2 not_false)
  exact (@refusesStatus_append [_] talk).trans (or_iff_right hnot)

theorem refusesStatus_log (event : Event) :
    RefusesStatus (talk ++ [⟨.log event, ()⟩]) ↔ talk.RefusesStatus := by
  have hnot : ¬ RefusesStatus [⟨.log event, ()⟩] :=
    not_refusesStatus (List.forall_mem_singleton.2 not_false)
  exact refusesStatus_append.trans (or_iff_left hnot)

end Dialogue

/-- A topic was told a status in a dialogue. -/
structure Topic.Told (t : Topic) (status : Status) (talk : Dialogue) (t' : Topic) : Prop where
  asked : ∀ e ∈ talk, e.query.TellsStatus
  topic : t' = t.through talk
  /-- A status that the topic has already is not written. -/
  silent : t.status = some status → ∀ e ∈ talk, ¬ e.query.WritesStatus
  taken : ¬ talk.RefusesStatus → t'.status = some status
  refused : talk.RefusesStatus → t' = t

namespace Topic.Told

variable {α : Type} {t t' : Topic} {status : Status} {talk before after : Dialogue}

/-- Nothing needs to be written. -/
theorem already (h : t.status = some status) : t.Told status [] t where
  asked := fun _ he => absurd he List.not_mem_nil
  topic := rfl
  silent := fun _ _ he => absurd he List.not_mem_nil
  taken := fun _ => h
  refused := fun ⟨_, _, _, hmem⟩ => absurd hmem List.not_mem_nil

theorem single {answer : Except StoreError Unit} (h : t.status ≠ some status) :
    t.Told status [⟨.write t (.status status), answer⟩]
      (t.hear ⟨.write t (.status status), answer⟩) where
  asked := fun _ he => List.mem_singleton.1 he ▸ trivial
  topic := rfl
  silent := fun hsame => absurd hsame h
  taken := by
    intro htaken
    cases answer with
    | ok _ => rfl
    | error cause => exact absurd ⟨t, status, cause, List.mem_singleton_self _⟩ htaken
  refused := by
    rintro ⟨topic, other, cause, hmem⟩
    cases List.mem_singleton.1 hmem
    rfl

/-- Reading the clock before changes nothing. -/
theorem after_now (h : t.Told status talk t') (now : Instant) :
    t.Told status (⟨.now, now⟩ :: talk) t' where
  asked := List.forall_mem_cons.2 ⟨trivial, h.asked⟩
  topic := h.topic
  silent := fun hsame => List.forall_mem_cons.2 ⟨not_false, h.silent hsame⟩
  taken := fun htaken => h.taken (mt (Dialogue.refusesStatus_now now).2 htaken)
  refused := fun hrefused => h.refused ((Dialogue.refusesStatus_now now).1 hrefused)

/-- Logging an event after it changes nothing. -/
theorem before_log (h : t.Told status talk t') (event : Event) :
    t.Told status (talk ++ [⟨.log event, ()⟩]) t' where
  asked := List.forall_mem_append.2 ⟨h.asked, List.forall_mem_singleton.2 trivial⟩
  topic := by
    rw [Topic.through_append, ← h.topic]
    rfl
  silent := fun hsame =>
    List.forall_mem_append.2 ⟨h.silent hsame, List.forall_mem_singleton.2 not_false⟩
  taken := fun htaken => h.taken (mt (Dialogue.refusesStatus_log event).2 htaken)
  refused := fun hrefused => h.refused ((Dialogue.refusesStatus_log event).1 hrefused)

theorem stage (h : t.Told status talk t') :
    Stage (fun _ => Query.TellsStatus) t talk (.ok () : Except PassError Unit) t' :=
  ⟨h.topic, Topic.follows_of_forall_query h.asked,
    Dialogue.recordsCreated_of_not_writesIdentity fun e he => (h.asked e he).not_writesIdentity,
    by rintro _ ⟨⟩⟩

end Topic.Told

/-- What may be asked to delete the remote topic: to delete the one that is recorded, and events. -/
def Query.Deletes (t : Topic) : Query → Prop
  | mutate (.delete identity) => t.externalName = some identity
  | log _ => True
  | _ => False

theorem Query.Deletes.fits {t : Topic} {q : Query} (h : q.Deletes t) : q.Fits t := by
  cases q with
  | mutate m =>
      cases m with
      | delete identity => exact h
      | create | setAttribute | addTags | removeTags => exact absurd h not_false
  | log event => trivial
  | _ => exact absurd h not_false

theorem Query.Deletes.not_isWrite {t : Topic} {q : Query} (h : q.Deletes t) : ¬ q.IsWrite := by
  cases q with
  | write topic change => exact absurd h not_false
  | _ => exact not_false

namespace Lifecycle

open Work

variable {t : Topic}

/-- A status is told, and an error says that it was refused. -/
theorem persistStatus_tells (t : Topic) (status : Status) :
    (persistStatus status).Tells t fun talk result t' =>
      t.Told status talk t' ∧
        (∀ value, result = .ok value → ¬ talk.RefusesStatus) ∧
        ∀ e, result = .error e → talk.RefusesStatus ∧ ∃ cause, e = .persistStatus cause := by
  simp only [persistStatus, tells_bind_iff, tells_get_iff, List.nil_append]
  by_cases hsame : t.status = some status
  · rw [if_pos hsame, tells_pure_iff]
    refine ⟨.already hsame, ?_, by rintro _ ⟨⟩⟩
    rintro _ _ ⟨_, _, _, hmem⟩
    exact absurd hmem List.not_mem_nil
  · simp only [if_neg hsame, tells_bind_iff, tells_write_iff, tells_modify_iff]
    rintro (cause | _)
    · refine ⟨.single hsame, by rintro _ ⟨⟩, ?_⟩
      rintro _ ⟨⟩
      exact ⟨⟨t, status, cause, List.mem_singleton_self _⟩, cause, rfl⟩
    · refine ⟨.single hsame, ?_, by rintro _ ⟨⟩⟩
      rintro _ _ ⟨topic, other, cause, hmem⟩
      cases List.mem_singleton.1 hmem

theorem recordFailure_tells (t : Topic) (e : PassError) :
    (recordFailure e).Tells t fun talk result t' =>
      result = .ok () ∧ ∃ now, t.Told (failureStatus now t e) talk t' := by
  unfold recordFailure
  simp only [nextStatus, tells_bind_iff, tells_get_iff, tells_ask_iff, tells_pure_iff,
    tells_attempt_iff]
  intro now
  refine (persistStatus_tells t _).mono ?_
  rintro talk (cause | _) t' ⟨htold, -⟩
  · exact tells_log_iff.2 ⟨rfl, now, (htold.before_log _).after_now now⟩
  · refine tells_pure_iff.2 ⟨rfl, now, ?_⟩
    rw [List.append_nil talk]
    exact htold.after_now now

/-- What a deletion comes to.  A topic that the remote service does not know counts as deleted. -/
def deletionResult (identity : String) : Called String → Except PassError Unit
  | .error interruption => .error (interruption.failure .deleteTopic)
  | .ok (.ok _) => .ok ()
  | .ok (.error cause) => if cause.isNotFound then .ok () else .error (.deleteTopic identity cause)

/-- The remote topic of a topic was deleted, or it was not known, or there was an error. -/
structure Deletion (t : Topic) (talk : Dialogue) (result : Except PassError Unit) (t' : Topic) :
    Prop where
  stage : Stage Query.Deletes t talk result t'
  /-- It ends as the call for it was answered. -/
  answered : ∀ identity answer, .call (.delete identity) answer ∈ talk →
    result = deletionResult identity answer
  /-- If an identity is recorded, there is a call for it. -/
  called : ∀ identity, t.externalName = some identity → ∃ answer, .call (.delete identity) answer ∈ talk
  other : ∀ e, result = .error e → e.isCreateTopic = false

/-- A deletion writes nothing back. -/
theorem Deletion.writesNothing {t' : Topic} {talk : Dialogue} {result : Except PassError Unit}
    (h : Deletion t talk result t') : ∀ e ∈ talk, ¬ e.query.IsWrite :=
  h.stage.follows.forall_query fun _ _ hq => hq.not_isWrite

/-- The call for a deletion is only followed by events. -/
theorem deletion_of_call {identity : String} (hname : t.externalName = some identity)
    (answer : Called String) (events : List Event) {result : Except PassError Unit}
    (hresult : deletionResult identity answer = result) :
    Deletion t (.call (.delete identity) answer :: events.map fun event => ⟨.log event, ()⟩)
      result t := by
  subst hresult
  have herror : ∀ e, deletionResult identity answer = .error e →
      e.Genuine ∧ e.isCreateTopic = false := by
    intro e he
    rcases answer with interruption | cause | reply
    · cases he
      exact ⟨interruption.genuine_failure _, by cases interruption <;> rfl⟩
    · simp only [deletionResult] at he
      split at he
      · cases he
      · cases he
        exact ⟨trivial, rfl⟩
    · cases he
  refine ⟨.of_not_isWrite ?_ fun e he => (herror e he).1, ?_, ?_, fun e he => (herror e he).2⟩
  · refine List.forall_mem_cons.2 ⟨⟨hname, not_false⟩, ?_⟩
    intro e he
    obtain ⟨event, -, rfl⟩ := List.mem_map.1 he
    exact ⟨trivial, not_false⟩
  · intro other reply hmem
    rcases List.mem_cons.1 hmem with hmem | hmem
    · cases hmem
      rfl
    · obtain ⟨event, -, hevent⟩ := List.mem_map.1 hmem
      cases hevent
  · rintro other hother
    obtain rfl := Option.some.inj (hname.symm.trans hother)
    exact ⟨answer, List.mem_cons_self⟩

theorem delete_tells (t : Topic) : delete.Tells t (Deletion t) := by
  unfold delete
  rw [tells_bind_iff, tells_get_iff]
  dsimp only
  cases hname : t.externalName with
  | none =>
      refine tells_log_iff.2 ⟨.single trivial not_false (by rintro _ ⟨⟩), ?_, ?_, by rintro _ ⟨⟩⟩
      · intro identity answer hmem
        cases List.mem_singleton.1 hmem
      · intro identity hidentity
        cases hname.symm.trans hidentity
  | some identity =>
      have hcall := deletion_of_call hname
      dsimp only
      rw [tells_bind_iff, tells_mutate_iff]
      rintro (interruption | cause | reply)
      · exact hcall (.error interruption) [] rfl
      · dsimp only [Except.mapError]
        split
        · rename_i hunknown
          exact tells_log_iff.2 (hcall (.ok (.error cause)) [_] (if_pos hunknown))
        · rename_i hknown
          exact tells_throw_iff.2 (hcall (.ok (.error cause)) [] (if_neg hknown))
      · exact tells_log_iff.2 (hcall (.ok (.ok reply)) [_] rfl)

/-- How a pass goes: it brings the remote topic into line, and then tells the status that this left,
or the error that it failed with. -/
inductive Reconciled (t : Topic) : Dialogue → Except PassError Outcome → Topic → Prop
  | succeeded {first rest : Dialogue} {outcome : Outcome} {status : Status} {m t' : Topic}
      (hconverge : converge.Unfolds t first (.ok (outcome, status)) m)
      (htold : m.Told status rest t') (htaken : ¬ rest.RefusesStatus) :
      Reconciled t (first ++ rest) (.ok outcome) t'
  | refused {first rest : Dialogue} {outcome : Outcome} {status : Status} {m t' : Topic}
      (hconverge : converge.Unfolds t first (.ok (outcome, status)) m)
      (htold : m.Told status rest t') (hrefused : rest.RefusesStatus) (cause : StoreError) :
      Reconciled t (first ++ rest) (.error (.persistStatus cause)) t'
  | failed {first rest : Dialogue} {e : PassError} {m t' : Topic} (now : Instant)
      (hconverge : converge.Unfolds t first (.error e) m)
      (htold : m.Told (failureStatus now m e) rest t') :
      Reconciled t (first ++ rest) (.error e) t'

theorem reconcile_tells (t : Topic) : reconcile.Tells t (Reconciled t) := by
  rw [reconcile, tells_bind_iff, tells_attempt_iff]
  rintro first (e | ⟨outcome, status⟩) m hconverge
  · dsimp only
    rw [tells_bind_iff]
    refine (recordFailure_tells m e).mono ?_
    rintro rest _ t' ⟨rfl, now, htold⟩
    refine tells_throw_iff.2 ?_
    rw [List.append_nil]
    exact .failed now hconverge htold
  · dsimp only
    rw [tells_bind_iff]
    refine (persistStatus_tells m status).mono ?_
    rintro rest (e | _) t' ⟨htold, htaken, herror⟩
    · obtain ⟨hrefused, cause, rfl⟩ := herror e rfl
      exact .refused hconverge htold hrefused cause
    · refine tells_pure_iff.2 ?_
      rw [List.append_nil]
      exact .succeeded hconverge htold (htaken () rfl)

/-- How a cleanup goes: it tells that the remote topic is about to be deleted, and only then deletes
it. -/
inductive CleanedUp (t : Topic) : Dialogue → Except PassError Outcome → Topic → Prop
  | refused {talk : Dialogue} {t' : Topic} (now : Instant)
      (htold : t.Told (Status.next now t.status [.deleting] none) talk t')
      (hrefused : talk.RefusesStatus) (cause : StoreError) :
      CleanedUp t talk (.error (.persistStatus cause)) t'
  | deleted {first second : Dialogue} {m : Topic} (now : Instant)
      (htold : t.Told (Status.next now t.status [.deleting] none) first m)
      (htaken : ¬ first.RefusesStatus) (hdelete : Deletion m second (.ok ()) m) :
      CleanedUp t (first ++ second) (.ok .deleted) m
  | failed {first second third : Dialogue} {e : PassError} {m t' : Topic} (now later : Instant)
      (htold : t.Told (Status.next now t.status [.deleting] none) first m)
      (htaken : ¬ first.RefusesStatus) (hdelete : Deletion m second (.error e) m)
      (hfailure : m.Told (failureStatus later m e) third t') :
      CleanedUp t (first ++ (second ++ third)) (.error e) t'

theorem cleanup_tells (t : Topic) : cleanup.Tells t (CleanedUp t) := by
  simp only [cleanup, nextStatus, tells_bind_iff, tells_get_iff, tells_ask_iff, tells_pure_iff]
  intro now
  refine (persistStatus_tells t _).mono ?_
  rintro told result m ⟨htold, htaken, herror⟩
  have hfirst := htold.after_now now
  rw [← Dialogue.refusesStatus_now now] at htaken herror
  cases result with
  | error e =>
      obtain ⟨hrefused, cause, rfl⟩ := herror e rfl
      exact .refused now hfirst hrefused cause
  | ok _ =>
      dsimp only
      rw [tells_attempt_iff]
      refine (delete_tells m).mono ?_
      intro second result m' hdelete
      -- Whatever a deletion comes to, it leaves the topic as it is.
      obtain rfl := hdelete.stage.topic_eq fun _ _ hq => hq.not_isWrite
      cases result with
      | ok _ =>
          refine tells_pure_iff.2 ?_
          show CleanedUp t ((⟨.now, now⟩ :: told) ++ (second ++ [])) _ _
          rw [List.append_nil]
          exact .deleted now hfirst (htaken () rfl) hdelete
      | error e =>
          dsimp only
          rw [tells_bind_iff]
          refine (recordFailure_tells m' e).mono ?_
          rintro third _ t' ⟨rfl, later, hfailure⟩
          refine tells_throw_iff.2 ?_
          show CleanedUp t ((⟨.now, now⟩ :: told) ++ (second ++ (third ++ []))) _ _
          rw [List.append_nil]
          exact .failed now later hfirst (htaken () rfl) hdelete hfailure

end Lifecycle

end TopicOperator
