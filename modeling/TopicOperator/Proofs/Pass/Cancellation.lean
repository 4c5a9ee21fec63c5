import TopicOperator.Proofs.Pass.Indifference
import TopicOperator.Proofs.Pass.Lasting

/-!
# Operations with a cancelled token

An operation that starts with a cancelled token gets to know nothing of the remote service and leaves
nothing there: its first call is cut short, and an operation that needs no call succeeds.  Only the
status may be told.  So where writes always succeed, what is done later comes to the same as if the
operation had never been tried.
-/

namespace TopicOperator

variable {α β : Type}

/-- A store after statuses were written to it, whether they were taken or not. -/
inductive Store.Told (store : Store) : Store → Prop
  | nothing : Told store store
  | status {next : Store} (h : Told store next) (topic : Topic) (status : Status) :
      Told store (next.write topic (.status status)).2

/-- Nothing has changed but the status of the topic, what was written to tell it, the time and the
events. -/
structure OnlyTold (w : World) (t : Topic) (w' : World) (t' : Topic) : Prop where
  topic : t.SameButStatus t'
  world : ∃ store clock events, w.store.Told store ∧
    w' = { w with store := store, clock := clock, events := events }

/-- A world at another time, with a token that is not cancelled. -/
def World.resumed (w : World) (now : Instant) : World :=
  { w with cancelled := false, clock := now }

namespace OnlyTold

variable {w w' : World} {t t' : Topic}

theorem refl (w : World) (t : Topic) : OnlyTold w t w t :=
  ⟨.refl t, w.store, w.clock, w.events, .nothing, rfl⟩

theorem log (h : OnlyTold w t w' t') (events : List Event) : OnlyTold w t (w'.log events) t' := by
  obtain ⟨htopic, store, clock, older, htold, rfl⟩ := h
  exact ⟨htopic, store, clock, older ++ events, htold, rfl⟩

/-- It does not matter when it was told. -/
theorem of_at {now : Instant} (h : OnlyTold (w.at now) t w' t') : OnlyTold w t w' t' := by
  obtain ⟨htopic, store, clock, events, htold, rfl⟩ := h
  exact ⟨htopic, store, clock, events, htold, rfl⟩

theorem cancelled (h : OnlyTold w t w' t') : w'.cancelled = w.cancelled := by
  obtain ⟨-, store, clock, events, -, rfl⟩ := h
  rfl

end OnlyTold

/-- To tell a status touches nothing else. -/
theorem lasts_onlyTold (w : World) (t : Topic) : Work.Lasts (OnlyTold w t) where
  log event _ _ h := h.log [event]
  now := by
    rintro _ t' ⟨htopic, store, clock, events, htold, rfl⟩
    exact ⟨htopic, store, clock.next, events, htold, rfl⟩
  writeStatus := by
    rintro topic status _ t' ⟨htopic, store, clock, events, htold, rfl⟩
    exact ⟨htopic, _, clock, events, htold.status topic status, rfl⟩
  setStatus := by
    rintro w' _ status ⟨⟨old, rfl⟩, hworld⟩
    exact ⟨⟨some status, rfl⟩, hworld⟩

namespace Lifecycle

open Work World

variable {w : World} {t : Topic} {identity : String}

/-- Work comes to a result and leaves nothing but events. -/
def OnlyLogs (w : World) (t : Topic) (work : Work α) (result : Except PassError α) : Prop :=
  ∃ events, w.perform t work = ⟨result, t, w.log events⟩

namespace OnlyLogs

variable {work : Work α} {next : α → Work β} {result : Except PassError α}

theorem result_eq (h : OnlyLogs w t work result) : (w.perform t work).result = result := by
  obtain ⟨events, hrun⟩ := h
  rw [hrun]

theorem onlyTold (h : OnlyLogs w t work result) :
    OnlyTold w t (w.perform t work).world (w.perform t work).topic := by
  obtain ⟨events, hrun⟩ := h
  rw [hrun]
  exact (OnlyTold.refl w t).log events

theorem pure (value : α) : OnlyLogs w t (Pure.pure value) (.ok value) :=
  ⟨[], by simp [World.log]⟩

theorem log (level : Level) (message : String) (fields : List (String × String)) :
    OnlyLogs w t (Work.log level message fields) (.ok ()) :=
  ⟨_, perform_log w t level message fields⟩

theorem get {next : Topic → Work α} (h : OnlyLogs w t (next t) result) :
    OnlyLogs w t (MonadState.get >>= next) result := by
  rw [OnlyLogs, perform_bind, perform_get, andThen_ok]
  exact h

theorem bind {value : α} {result : Except PassError β} (h : OnlyLogs w t work (.ok value))
    (hnext : ∀ events, OnlyLogs (w.log events) t (next value) result) :
    OnlyLogs w t (work >>= next) result := by
  obtain ⟨first, hrun⟩ := h
  obtain ⟨later, hthen⟩ := hnext first
  refine ⟨first ++ later, ?_⟩
  rw [perform_bind, hrun, andThen_ok, hthen]
  simp [World.log]

/-- Work that fails takes what would follow with it. -/
theorem cut {e : PassError} (h : OnlyLogs w t work (.error e)) :
    OnlyLogs w t (work >>= next) (.error e) := by
  obtain ⟨events, hrun⟩ := h
  refine ⟨events, ?_⟩
  rw [perform_bind, hrun]
  rfl

/-- A changing call is cut short. -/
theorem mutate (hw : w.cancelled = true) (m : Mutation) :
    OnlyLogs w t (Work.mutate m) (.error (.cancelled m.operation.name)) := by
  refine ⟨[], ?_⟩
  simp only [Work.mutate, perform_bind, perform_ask, andThen_ok, answer]
  rw [call_of_cancelled hw]
  simp [called, World.log]

/-- So is a call that reads the attributes. -/
theorem observeIdentity (hw : w.cancelled = true) (identity : String) :
    OnlyLogs w t (Lifecycle.observeIdentity identity) (.error (.cancelled "GetTopicAttributes")) := by
  refine ⟨[], ?_⟩
  simp only [Lifecycle.observeIdentity, perform_bind, perform_ask, andThen_ok, answer]
  rw [call_of_cancelled hw]
  simp [called, World.log, Operation.name]

end OnlyLogs

theorem observe_of_cancelled (hw : w.cancelled = true) (t : Topic) : OnlyLogs w t observe
    (if t.externalName = none then .ok .absent else .error (.cancelled "GetTopicAttributes")) := by
  refine OnlyLogs.get ?_
  cases hname : t.externalName with
  | none => exact (OnlyLogs.log _ _ _).bind fun _ => .pure _
  | some identity => exact .observeIdentity hw identity

theorem create_of_cancelled (hw : w.cancelled = true) (t : Topic) :
    OnlyLogs w t create (.error (.cancelled "CreateTopic")) :=
  OnlyLogs.get (OnlyLogs.mutate hw _).cut

theorem delete_of_cancelled (hw : w.cancelled = true) (t : Topic) : OnlyLogs w t delete
    (if t.externalName = none then .ok () else .error (.cancelled "DeleteTopic")) := by
  refine OnlyLogs.get ?_
  cases hname : t.externalName with
  | none => exact .log _ _ _
  | some identity => exact (OnlyLogs.mutate hw _).cut

/-- What a plan comes to whose first call is cut short. -/
def cutShort : List Task → Except PassError Unit
  | [] => .ok ()
  | task :: _ => .error (.cancelled task.mutation.operation.name)

theorem setAttributes_of_cancelled (hw : w.cancelled = true) (t : Topic) (identity : String)
    (changes : List (Attribute × String)) : OnlyLogs w t (setAttributes identity changes)
      (cutShort (changes.map (Verdict.attributeTask identity))) := by
  cases changes with
  | nil => exact .pure ()
  | cons change rest => exact (OnlyLogs.mutate hw _).cut

/-- The first call that the verdict asks for is the first one that is made. -/
theorem update_of_cancelled (hw : w.cancelled = true) (t : Topic) (identity : String)
    (verdict : Verdict) : OnlyLogs w t (update identity verdict) (cutShort (verdict.plan identity)) := by
  have hattributes := setAttributes_of_cancelled hw t identity verdict.attributes.toList
  unfold update Verdict.plan
  cases hchanges : verdict.attributes.toList with
  | cons change rest =>
      rw [hchanges] at hattributes
      exact hattributes.cut
  | nil =>
      rw [hchanges] at hattributes
      refine hattributes.bind fun events => ?_
      have hlogged : (w.log events).cancelled = true := hw
      unfold Verdict.removalTasks Verdict.additionTasks
      cases verdict.tags.toRemove.isEmpty with
      | false => exact (OnlyLogs.mutate hlogged _).cut
      | true =>
          cases verdict.tags.toAdd.isEmpty with
          | false => exact (OnlyLogs.mutate hlogged _).cut
          | true => exact .log _ _ _

/-- A pass ends at its first call. -/
theorem converge_of_cancelled (hw : w.cancelled = true) (t : Topic) : OnlyLogs w t converge
    (.error (.cancelled
      (if t.externalName = none then "CreateTopic" else "GetTopicAttributes"))) := by
  have hobserve := observe_of_cancelled hw t
  cases hname : t.externalName with
  | none =>
      rw [hname] at hobserve
      exact hobserve.bind fun events => (create_of_cancelled (w := w.log events) hw t).cut
  | some identity =>
      rw [hname] at hobserve
      exact hobserve.cut

/-- An error that is recorded is still the error in the end, and only the status may tell of it. -/
theorem perform_failure_told {w' : World} {t' : Topic} (h : OnlyTold w t w' t') (e : PassError) :
    let ran := w'.perform t' (recordFailure e >>= fun _ => (throw e : Work α))
    ran.result = .error e ∧ OnlyTold w t ran.world ran.topic := by
  have hrecord : Meets (OnlyTold w t) (recordFailure e) (fun _ => OnlyTold w t)
      (fun _ _ _ => False) := (lasts_onlyTold w t).recordFailure e
  have hend : Meets (OnlyTold w t) (recordFailure e >>= fun _ => (throw e : Work α))
      (fun _ _ _ => False) (fun cause w' t' => cause = e ∧ OnlyTold w t w' t') :=
    (hrecord.weaken (fun _ _ => id) (fun _ _ _ => id) (fun _ _ _ => False.elim)).bind fun _ =>
      Meets.throw e fun _ _ h => ⟨rfl, h⟩
  have hran := hend w' t' h
  dsimp only
  generalize w'.perform t' (recordFailure e >>= fun _ => (throw e : Work α)) = ran at hran
  obtain ⟨result, topic, world⟩ := ran
  cases result with
  | ok _ => exact hran.elim
  | error cause =>
      obtain ⟨rfl, htold⟩ := hran
      exact ⟨rfl, htold⟩

/-- A reconcile with a cancelled token tells that it got no further than its first call. -/
theorem reconcile_of_cancelled (hw : w.cancelled = true) (t : Topic) :
    (w.perform t reconcile).result = .error (.cancelled
        (if t.externalName = none then "CreateTopic" else "GetTopicAttributes")) ∧
      OnlyTold w t (w.perform t reconcile).world (w.perform t reconcile).topic := by
  obtain ⟨events, hconverge⟩ := converge_of_cancelled hw t
  rw [reconcile, perform_bind, perform_attempt, hconverge, andThen_ok]
  exact perform_failure_told ((OnlyTold.refl w t).log events) _

/-- A status that is taken, or that the topic has already. -/
theorem perform_persistStatus_taken {status : Status}
    (h : t.status = some status ∨ (w.store.write t (.status status)).1 = .ok ()) :
    ∃ w', OnlyTold w t w' (t.withStatus status) ∧
      w.perform t (persistStatus status) = ⟨.ok (), t.withStatus status, w'⟩ := by
  have hlasts := lasts_onlyTold w t
  rw [persistStatus, perform_bind, perform_get, andThen_ok]
  by_cases hsame : t.status = some status
  · refine ⟨w, hlasts.setStatus _ _ status (.refl w t), ?_⟩
    rw [if_pos hsame, perform_pure, Topic.withStatus_self hsame]
  · have hwritten := hlasts.writeStatus t status w t (.refl w t)
    refine ⟨_, hlasts.setStatus _ _ status hwritten, ?_⟩
    rw [if_neg hsame, perform_bind, perform_write, h.resolve_left hsame]
    rfl

theorem perform_persistStatus_refused {status : Status} (hother : t.status ≠ some status)
    {cause : StoreError} (h : (w.store.write t (.status status)).1 = .error cause) :
    w.perform t (persistStatus status) = ⟨.error (.persistStatus cause), t,
      { w with store := (w.store.write t (.status status)).2 }⟩ := by
  rw [persistStatus, perform_bind, perform_get, andThen_ok, if_neg hother, perform_bind,
    perform_write, h]
  rfl

/-- The status that a cleanup tells first is taken, or the topic has it already. -/
def DeletionTold (w : World) (t : Topic) : Prop :=
  t.status = some (t.deletingStatus w.clock) ∨
    (w.store.write t (.status (t.deletingStatus w.clock))).1 = .ok ()

/-- A cleanup with a cancelled token tells the status, and then that it got no further than its first
call, if it needs one. -/
theorem cleanup_of_cancelled (hw : w.cancelled = true) (htold : DeletionTold w t) :
    (w.perform t cleanup).result =
        (if t.externalName = none then .ok .deleted else .error (.cancelled "DeleteTopic")) ∧
      OnlyTold w t (w.perform t cleanup).world (w.perform t cleanup).topic := by
  obtain ⟨w', hstill, hpersist⟩ := perform_persistStatus_taken (w := w.at w.clock.next) htold
  have hw' : w'.cancelled = true := hstill.cancelled.trans hw
  -- Of what a cleanup does, its deletion is the first to look at the token.
  rw [perform_cleanup_eq, hpersist, andThen_ok, perform_bind, perform_attempt]
  obtain ⟨events, hdelete⟩ := delete_of_cancelled hw' (t.withStatus (t.deletingStatus w.clock))
  have hname : (t.withStatus (t.deletingStatus w.clock)).externalName = t.externalName := rfl
  rw [hdelete, andThen_ok, hname]
  have hlogged := hstill.of_at.log events
  split
  · exact ⟨rfl, hlogged⟩
  · exact perform_failure_told hlogged _

theorem cleanup_of_refused (hother : t.status ≠ some (t.deletingStatus w.clock)) {cause : StoreError}
    (h : (w.store.write t (.status (t.deletingStatus w.clock))).1 = .error cause) :
    (w.perform t cleanup).result = .error (.persistStatus cause) ∧
      OnlyTold w t (w.perform t cleanup).world (w.perform t cleanup).topic := by
  rw [perform_cleanup_eq, perform_persistStatus_refused (w := w.at w.clock.next) hother h]
  exact ⟨rfl, .refl t, _, _, _, Store.Told.nothing.status t _, rfl⟩

/-- Whatever operation starts with a cancelled token, only the status may be told. -/
theorem onlyTold_of_cancelled {work : Work α} (hwork : Offers work) (hw : w.cancelled = true)
    (t : Topic) : OnlyTold w t (w.perform t work).world (w.perform t work).topic := by
  cases hwork with
  | reconcile => exact (reconcile_of_cancelled hw t).2
  | cleanup =>
      by_cases htold : DeletionTold w t
      · exact (cleanup_of_cancelled hw htold).2
      · obtain ⟨hother, hrefused⟩ := not_or.1 htold
        cases hanswer : (w.store.write t (.status (t.deletingStatus w.clock))).1 with
        | ok _ => exact absurd hanswer hrefused
        | error cause => exact (cleanup_of_refused hother hanswer).2
  | observe => exact (observe_of_cancelled hw t).onlyTold
  | create => exact (create_of_cancelled hw t).onlyTold
  | update identity verdict => exact (update_of_cancelled hw t identity verdict).onlyTold
  | delete => exact (delete_of_cancelled hw t).onlyTold

/-- What the operations come to with a cancelled token. -/
structure HeldUp (w : World) (t : Topic) : Prop where
  observe : (w.perform t observe).result =
    if t.externalName = none then .ok .absent else .error (.cancelled "GetTopicAttributes")
  create : (w.perform t create).result = .error (.cancelled "CreateTopic")
  reconcile : (w.perform t reconcile).result = .error (.cancelled
    (if t.externalName = none then "CreateTopic" else "GetTopicAttributes"))
  delete : (w.perform t delete).result =
    if t.externalName = none then .ok () else .error (.cancelled "DeleteTopic")
  cleanup : DeletionTold w t → (w.perform t cleanup).result =
    if t.externalName = none then .ok .deleted else .error (.cancelled "DeleteTopic")
  /-- An update fails at the first call of its plan, if it has one. -/
  update : ∀ identity verdict,
    (w.perform t (update identity verdict)).result = cutShort (verdict.plan identity)
  updateSucceeds : ∀ identity verdict, (w.perform t (Lifecycle.update identity verdict)).result = .ok () ↔
    (∀ a, verdict.attributes a = none) ∧ verdict.tags.toAdd = .empty ∧ verdict.tags.toRemove = .empty

theorem cutShort_eq_ok_iff {plan : List Task} : cutShort plan = .ok () ↔ plan = [] := by
  cases plan <;> simp [cutShort]

theorem heldUp_of_cancelled (hw : w.cancelled = true) (t : Topic) : HeldUp w t where
  observe := (observe_of_cancelled hw t).result_eq
  create := (create_of_cancelled hw t).result_eq
  reconcile := (reconcile_of_cancelled hw t).1
  delete := (delete_of_cancelled hw t).result_eq
  cleanup htold := (cleanup_of_cancelled hw htold).1
  update identity verdict := (update_of_cancelled hw t identity verdict).result_eq
  updateSucceeds identity verdict := by
    rw [(update_of_cancelled hw t identity verdict).result_eq, cutShort_eq_ok_iff,
      Verdict.plan_eq_nil_iff]

/-- Nothing is let through by a cancelled token: an operation leaves everything but the status as it is,
it fails at its first call if it has one, and where writes always succeed, whatever is done later comes
to the same as if the operation had never been tried. -/
theorem cancelled_lets_nothing_through (hw : w.cancelled = true) (t : Topic) :
    (∀ {α : Type} {work : Work α}, Offers work →
      OnlyTold w t (w.perform t work).world (w.perform t work).topic) ∧
    HeldUp w t ∧
    (w.Recording → ∀ {α β : Type} {work : Work α} {later : Work β}, Offers work → Offers later →
      ∀ now now', let tried := w.perform t work
        let after := (tried.world.resumed now).perform tried.topic later
        let alone := (w.resumed now').perform t later
        after.result = alone.result ∧ after.world.remote = alone.world.remote) := by
  refine ⟨fun hwork => onlyTold_of_cancelled hwork hw t, heldUp_of_cancelled hw t, ?_⟩
  intro hrecords α β work later hwork hlater now now'
  -- What was told is all that the later work meets, and no operation decides anything by it.
  have hstill := recording_perform hrecords t work
  obtain ⟨htopic, store, clock, events, -, hworld⟩ := onlyTold_of_cancelled hwork hw t
  refine comes_to_same hlater ⟨hrecords, hstill, store, now, events, ?_⟩ htopic
  rw [hworld]
  rfl

/-- A pass over a drifted topic that is tried with a cancelled token: it leaves a status, and the next
one does what the first one would have done. -/
theorem cancelled_lets_nothing_through_drifted :
    let w : World := { driftedWorld with cancelled := true }
    let tried := w.perform driftedTopic reconcile
    w.cancelled = true ∧ OnlyTold w driftedTopic tried.world tried.topic ∧ HeldUp w driftedTopic ∧
      tried.result = .error (.cancelled "GetTopicAttributes") ∧ tried.topic.status ≠ none ∧
      ((tried.world.resumed ⟨7⟩).perform tried.topic reconcile).result =
        (driftedWorld.perform driftedTopic reconcile).result := by
  intro w tried
  obtain ⟨hleft, hheld, hlater⟩ := cancelled_lets_nothing_through (w := w) rfl driftedTopic
  have hrecords : w.Recording := driftedWorld_faultless.records
  exact ⟨rfl, hleft .reconcile, hheld, hheld.reconcile, by decide +kernel,
    (hlater hrecords .reconcile .reconcile ⟨7⟩ ⟨0⟩).1⟩

end Lifecycle

end TopicOperator
