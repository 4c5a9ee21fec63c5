import TopicOperator.Proofs.Pass.ClockReading
import TopicOperator.Proofs.Pass.Deletion
import TopicOperator.Proofs.Pass.Operations

/-!
# What operations do not look at

The status of a topic is for those who read it; no operation of the lifecycle decides anything by it.
Nor does it matter what was written back before, when that was, or which events were logged, as long as
writes are only recorded.  So two runs of an operation that differ in nothing else come to the same
result at the same remote service: two runs are compared step by step, with one rule for each way to
put work together.
-/

namespace TopicOperator

variable {α β : Type}

/-- Two topics are the same but for the status. -/
def Topic.SameButStatus (t t' : Topic) : Prop :=
  ∃ status, t' = { t with status := status }

/-- Two worlds that only record what is written back are the same but for that, the time and the
events. -/
structure World.SameButRecords (w w' : World) : Prop where
  recording : w.Recording
  recordingOther : w'.Recording
  same : ∃ store clock events, w' = { w with store := store, clock := clock, events := events }

/-- Work came to the same result in two runs, and the runs are still the same but for what was told. -/
structure World.Ran.SameButRecords (ran ran' : World.Ran α) : Prop where
  result : ran'.result = ran.result
  topic : ran.topic.SameButStatus ran'.topic
  world : ran.world.SameButRecords ran'.world

theorem Topic.SameButStatus.refl (t : Topic) : t.SameButStatus t := ⟨t.status, rfl⟩

theorem Topic.SameButStatus.externalName {t t' : Topic} (h : t.SameButStatus t') :
    t'.externalName = t.externalName := by
  obtain ⟨status, rfl⟩ := h
  rfl

theorem Topic.SameButStatus.withStatus {t t' : Topic} (h : t.SameButStatus t')
    (first second : Status) : (t.withStatus first).SameButStatus (t'.withStatus second) := by
  obtain ⟨status, rfl⟩ := h
  exact ⟨some second, rfl⟩

namespace World.SameButRecords

variable {w w' : World}

theorem remote (h : w.SameButRecords w') : w'.remote = w.remote := by
  obtain ⟨store, clock, events, rfl⟩ := h.same
  rfl

theorem log (h : w.SameButRecords w') (added others : List Event) :
    (w.log added).SameButRecords (w'.log others) := by
  obtain ⟨hw, hw', store, clock, events, rfl⟩ := h
  exact ⟨hw, hw', store, clock, events ++ others, rfl⟩

theorem after (h : w.SameButRecords w') (added others : List StoreWrite) (clock later : Instant)
    (events news : List Event) :
    (w.after w.remote added clock events).SameButRecords
      (w'.after w'.remote others later news) := by
  obtain ⟨hw, hw', hsame⟩ := h
  refine ⟨hw.after _ _ _ _, hw'.after _ _ _ _, ?_⟩
  obtain ⟨store, before, older, rfl⟩ := hsame
  exact ⟨_, _, _, rfl⟩

/-- A call is answered alike. -/
theorem call (h : w.SameButRecords w') (operation : Operation) (address : String)
    (act : Remote → Except RemoteError α × Remote) :
    (w'.call operation address act).1 = (w.call operation address act).1 ∧
      (w.call operation address act).2.SameButRecords (w'.call operation address act).2 := by
  have hrecords : ∀ {v : World}, v.Recording → (v.call operation address act).2.Recording := by
    rintro v ⟨writes, hwrites⟩
    obtain ⟨_, _, _, _, hworld, -⟩ := v.call_eq operation address act
    exact ⟨writes, (congrArg World.store hworld).trans hwrites⟩
  obtain ⟨hw, hw', store, clock, events, rfl⟩ := h
  have hother := hrecords hw'
  rw [w.call_elsewhere] at hother ⊢
  exact ⟨rfl, hrecords hw, hother, store, clock, events, rfl⟩

end World.SameButRecords

namespace Work

open World

/-- Work comes to the same result in two runs that are the same but for what was told. -/
def Indifferent (work : Work α) : Prop :=
  ∀ (w w' : World) (t t' : Topic), w.SameButRecords w' → t.SameButStatus t' →
    (w.perform t work).SameButRecords (w'.perform t' work)

namespace Indifferent

variable {work : Work α}

theorem pure (value : α) : (Pure.pure value : Work α).Indifferent :=
  fun _ _ _ _ hw ht => ⟨rfl, ht, hw⟩

theorem throw (e : PassError) : (throwThe PassError e : Work α).Indifferent :=
  fun _ _ _ _ hw ht => ⟨rfl, ht, hw⟩

theorem bind (hfirst : work.Indifferent) {next : α → Work β}
    (hnext : ∀ value, (next value).Indifferent) : (work >>= next).Indifferent := by
  intro w w' t t' hw ht
  obtain ⟨hresult, htopic, hworld⟩ := hfirst w w' t t' hw ht
  rw [perform_bind, perform_bind]
  generalize w.perform t work = ran at hresult htopic hworld
  generalize w'.perform t' work = ran' at hresult htopic hworld
  obtain ⟨result, topic, world⟩ := ran
  obtain ⟨_, topic', world'⟩ := ran'
  obtain rfl : result = _ := hresult.symm
  -- The results agree, so both runs go on or both end here.
  cases result with
  | ok value => exact hnext value _ _ _ _ hworld htopic
  | error e => exact ⟨rfl, htopic, hworld⟩

theorem ite {p : Prop} [Decidable p] {other : Work α} (hwork : work.Indifferent)
    (hother : other.Indifferent) : (if p then work else other).Indifferent := by
  split
  · exact hwork
  · exact hother

/-- Work that goes on with the topic, but not with its status. -/
theorem get_bind {next : Topic → Work α} (hnext : ∀ t, (next t).Indifferent)
    (hsame : ∀ t status, next { t with status := status } = next t) :
    (MonadState.get >>= next).Indifferent := by
  intro w w' t t' hw ht
  obtain ⟨status, rfl⟩ := ht
  simp only [perform_bind, perform_get, andThen_ok]
  rw [hsame t status]
  exact hnext t _ _ _ _ hw ⟨status, rfl⟩

theorem modify {f : Topic → Topic}
    (hf : ∀ t status, f { t with status := status } = { f t with status := status }) :
    (modify f : Work PUnit).Indifferent := by
  rintro w w' t _ hw ⟨status, rfl⟩
  exact ⟨rfl, ⟨status, hf t status⟩, hw⟩

theorem log (level : Level) (message : String) (fields : List (String × String)) :
    (Work.log level message fields).Indifferent :=
  fun _ _ _ _ hw ht => ⟨rfl, ht, hw.log _ _⟩

theorem write (change : StoreWrite) (error : StoreError → PassError) :
    (Work.write change error).Indifferent := by
  intro w w' t t' hw ht
  rw [hw.recording.perform_write, hw.recordingOther.perform_write]
  exact ⟨rfl, ht, hw.after _ _ _ _ _ _⟩

theorem orElse {ε : Type} (answer : Except ε α) (error : ε → PassError) :
    (Work.orElse answer error).Indifferent := by
  cases answer with
  | ok value => exact pure value
  | error cause => exact throw (error cause)

theorem called (operation : Operation) (answer : Called α) :
    (Work.called operation answer).Indifferent := by
  cases answer with
  | ok answer => exact pure answer
  | error interruption =>
      cases interruption with
      | cancelled | timedOut => exact throw _

theorem fetchAttributes (identity : String) :
    (ask (.fetchAttributes identity)).Indifferent :=
  fun _ _ _ _ hw ht =>
    have hcall := hw.call .getTopicAttributes identity fun r => (r.fetchAttributes identity, r)
    ⟨congrArg Except.ok hcall.1, ht, hcall.2⟩

theorem fetchTags (identity : String) : (ask (.fetchTags identity)).Indifferent :=
  fun _ _ _ _ hw ht =>
    have hcall := hw.call .listTags identity fun r => (r.fetchTags identity, r)
    ⟨congrArg Except.ok hcall.1, ht, hcall.2⟩

theorem mutate (m : Mutation) : (Work.mutate m).Indifferent := by
  have hask : (ask (.mutate m)).Indifferent := by
    intro w w' t t' hw ht
    have hregion : w'.region = w.region := by
      obtain ⟨store, clock, events, rfl⟩ := hw.same
      rfl
    have hcall := hw.call m.operation m.address fun r => r.mutate w.region m
    rw [perform_ask, perform_ask]
    refine ⟨congrArg Except.ok ?_, ht, ?_⟩
    · rw [answer, hregion]
      exact hcall.1
    · show World.SameButRecords _ (w'.call m.operation m.address fun r => r.mutate w'.region m).2
      rw [hregion]
      exact hcall.2
  exact hask.bind (called m.operation)

/-- A changing call that must succeed, before other work. -/
theorem call (m : Mutation) (error : RemoteError → PassError) {next : Work α}
    (hnext : next.Indifferent) :
    (do let _ ← Work.orElse (← Work.mutate m) error; next).Indifferent :=
  (mutate m).bind fun answer => (orElse answer error).bind fun _ => hnext

/-- A changing call before other work, made only where there is something to do. -/
theorem callUnless (idle : Bool) (m : Mutation) (error : RemoteError → PassError) {next : Work α}
    (hnext : next.Indifferent) :
    (if idle then next else do let _ ← Work.orElse (← Work.mutate m) error; next).Indifferent :=
  ite hnext (call m error hnext)

end Indifferent

end Work

namespace Lifecycle

open Work World

theorem setAttributes_indifferent (identity : String) (changes : List (Attribute × String)) :
    (setAttributes identity changes).Indifferent := by
  induction changes with
  | nil => exact .pure ()
  | cons change rest ih =>
      exact .call (.setAttribute identity change.1.name change.2) (.updateAttribute change.1)
        ((Indifferent.log _ _ _).bind fun _ => ih)

theorem update_indifferent (identity : String) (verdict : Verdict) :
    (update identity verdict).Indifferent := by
  have hlast := Indifferent.log .info "updated remote topic" [("identity", identity),
    ("attributes", Number.decimal verdict.attributes.toList.length),
    ("tags_added", Number.decimal verdict.tags.toAdd.size),
    ("tags_removed", Number.decimal verdict.tags.toRemove.size)]
  have hadd := Indifferent.callUnless verdict.tags.toAdd.isEmpty
    (.addTags identity verdict.tags.tagsToAdd) .addTags hlast
  have hremove := Indifferent.callUnless verdict.tags.toRemove.isEmpty
    (.removeTags identity verdict.tags.keysToRemove) (.removeTags verdict.tags.keysToRemove) hadd
  exact (setAttributes_indifferent identity _).bind fun _ => hremove

theorem align_indifferent (identity : String) (snapshot : Snapshot) (upToDate : Bool) :
    (align identity snapshot upToDate).Indifferent := by
  cases upToDate with
  | true => exact .pure _
  | false =>
      exact .get_bind (fun _ => (update_indifferent identity _).bind fun _ => .pure _) fun _ _ => rfl

theorem fillParameters_indifferent (snapshot : Snapshot) :
    (fillParameters snapshot).Indifferent := by
  refine .get_bind (fun t => .ite ?_ (.pure false)) fun _ _ => rfl
  refine (Indifferent.modify fun _ _ => rfl).bind fun _ => ?_
  refine (Indifferent.log _ _ _).bind fun _ => ?_
  exact (Indifferent.write _ _).bind fun _ => .pure true

theorem observeTags_indifferent (identity : String) (attributes : ObservedAttributes) :
    (observeTags identity attributes).Indifferent := by
  refine (Indifferent.fetchTags identity).bind fun answer => ?_
  refine (Indifferent.called _ _).bind fun answer => ?_
  cases answer with
  | ok tags =>
      refine (fillParameters_indifferent _).bind fun filled => ?_
      exact .get_bind (fun _ => .pure _) fun _ _ => rfl
  | error cause => exact .ite ((Indifferent.log _ _ _).bind fun _ => .pure _) (.throw _)

theorem observeIdentity_indifferent (identity : String) :
    (observeIdentity identity).Indifferent := by
  refine (Indifferent.fetchAttributes identity).bind fun answer => ?_
  refine (Indifferent.called _ _).bind fun answer => ?_
  cases answer with
  | ok attributes => exact observeTags_indifferent identity attributes
  | error cause => exact .ite ((Indifferent.log _ _ _).bind fun _ => .pure _) (.throw _)

theorem observe_indifferent : observe.Indifferent := by
  refine .get_bind (fun t => ?_) fun _ _ => rfl
  cases t.externalName with
  | none => exact (Indifferent.log _ _ _).bind fun _ => .pure _
  | some identity => exact observeIdentity_indifferent identity

theorem create_indifferent : create.Indifferent := by
  refine .get_bind (fun t => ?_) fun _ _ => rfl
  refine (Indifferent.mutate _).bind fun answer => ?_
  refine (Indifferent.orElse _ _).bind fun identity => ?_
  refine (Indifferent.write _ _).bind fun _ => ?_
  refine (Indifferent.modify fun _ _ => rfl).bind fun _ => ?_
  exact (Indifferent.log _ _ _).bind fun _ => .pure identity

theorem delete_indifferent : delete.Indifferent := by
  refine .get_bind (fun t => ?_) fun _ _ => rfl
  cases t.externalName with
  | none => exact Indifferent.log _ _ _
  | some identity =>
      refine (Indifferent.mutate _).bind fun answer => ?_
      cases answer with
      | ok _ => exact Indifferent.log _ _ _
      | error cause => exact .ite (.log _ _ _) (.throw _)

/-- All that a pass does before it looks at the status. -/
theorem approach_indifferent : approach.Indifferent := by
  refine observe_indifferent.bind fun sighting => ?_
  cases sighting with
  | absent => exact create_indifferent.bind fun _ => .pure _
  | present identity snapshot upToDate filled =>
      exact (align_indifferent identity snapshot upToDate).bind fun _ => .pure _

variable {w w' : World} {t t' : Topic}

/-- Where writes always succeed, a cleanup comes to what its deletion comes to. -/
theorem perform_cleanup_recording (hw : w.Recording) (t : Topic) :
    (w.perform t cleanup).result = ((announced w t).perform
        (t.withStatus (t.deletingStatus w.clock)) delete).result.map (fun _ => .deleted) ∧
      (w.perform t cleanup).world.remote = ((announced w t).perform
        (t.withStatus (t.deletingStatus w.clock)) delete).world.remote := by
  have htold : (announced w t).Recording := hw.after _ _ _ _
  have hstill := recording_perform htold (t.withStatus (t.deletingStatus w.clock)) delete
  rw [perform_cleanup_announced hw, perform_attempt, andThen_ok]
  generalize (announced w t).perform (t.withStatus (t.deletingStatus w.clock)) delete = ran
    at hstill
  obtain ⟨result, topic, world⟩ := ran
  cases result with
  | ok _ => exact ⟨rfl, rfl⟩
  | error e =>
      dsimp only
      rw [perform_bind, perform_recordFailure hstill]
      exact ⟨rfl, rfl⟩

/-- No operation comes to anything else because of what was told. -/
theorem comes_to_same {work : Work α} (hwork : Offers work) (hw : w.SameButRecords w')
    (ht : t.SameButStatus t') :
    (w'.perform t' work).result = (w.perform t work).result ∧
      (w'.perform t' work).world.remote = (w.perform t work).world.remote := by
  have hends : ∀ {ran ran' : Ran α}, ran.SameButRecords ran' →
      ran'.result = ran.result ∧ ran'.world.remote = ran.world.remote :=
    fun h => ⟨h.result, h.world.remote⟩
  -- Passes do look at the status, but only to renew it: a reconcile once its calls are over, a
  -- cleanup before its deletion as well.
  cases hwork with
  | observe => exact hends (observe_indifferent _ _ _ _ hw ht)
  | create => exact hends (create_indifferent _ _ _ _ hw ht)
  | update identity verdict => exact hends (update_indifferent identity verdict _ _ _ _ hw ht)
  | delete => exact hends (delete_indifferent _ _ _ _ hw ht)
  | reconcile =>
      obtain ⟨hresult, -, hremote⟩ := perform_reconcile_recording hw.recording t
      obtain ⟨hresult', -, hremote'⟩ := perform_reconcile_recording hw.recordingOther t'
      have hsame := approach_indifferent _ _ _ _ hw ht
      rw [hresult, hresult', hremote, hremote', hsame.result]
      exact ⟨rfl, hsame.world.remote⟩
  | cleanup =>
      obtain ⟨hresult, hremote⟩ := perform_cleanup_recording hw.recording t
      obtain ⟨hresult', hremote'⟩ := perform_cleanup_recording hw.recordingOther t'
      have htold : (announced w t).SameButRecords (announced w' t') := hw.after _ _ _ _ _ _
      have hsame := delete_indifferent _ _ _ _ htold
        (ht.withStatus (t.deletingStatus w.clock) (t'.deletingStatus w'.clock))
      rw [hresult, hresult', hremote, hremote']
      exact ⟨congrArg _ hsame.result, hsame.world.remote⟩

end Lifecycle

end TopicOperator
