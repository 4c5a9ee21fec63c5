import TopicOperator.Proofs.Pass.Mirror
import TopicOperator.Proofs.Pass.Run

/-!
# What the stored object tells of a topic

Whatever fails, the stored object and the topic that passes work on record the same identity and tell the
same status, as long as the times in it can be written and read back.
-/

namespace TopicOperator

open World Work

/-- A pause after which the clock shows a time that can be written and read back. -/
structure World.TimedPause (w w' : World) : Prop extends w.Pause w' where
  time : w'.HasTime 2

/-- What the operator does to a topic. -/
inductive Chore where
  | reconcile
  | cleanup
  | observe
  | create
  | delete
deriving DecidableEq

namespace Chore

/-- The work of a chore. -/
def work : Chore → Work Unit
  | reconcile => do let _ ← Lifecycle.reconcile
  | cleanup => do let _ ← Lifecycle.cleanup
  | observe => do let _ ← Lifecycle.observe
  | create => do let _ ← Lifecycle.create
  | delete => Lifecycle.delete

end Chore

/-- The stored object holds a mirror of a topic. -/
def World.MirroredBy (notes : TextMap String) (w : World) (topic : Topic) : Prop :=
  ∃ (object : Json) (stored : Topic), w.store.object? = some object ∧ stored.StoredIn object ∧
    stored.Mirrors notes topic

namespace World.MirroredBy

variable {notes : TextMap String} {w w' : World} {topic : Topic} {object : Json}

theorem ofKept {n : Nat} (h : Kept notes n w topic) : w.MirroredBy notes topic := by
  obtain ⟨object, stored, hholds, hstored, hmirrors, -⟩ := h
  exact ⟨object, stored, hholds.object, hstored, hmirrors⟩

theorem pause (h : w.MirroredBy notes topic) (hpause : w.TimedPause w') : Kept notes 2 w' topic := by
  obtain ⟨object, stored, hobject, hstored, hmirrors⟩ := h
  exact ⟨object, stored, hpause.holds hobject, hstored, hmirrors, hpause.time⟩

/-- A stored topic mirrors itself. -/
theorem refl (hobject : w.store.object? = some object) (hstored : topic.StoredIn object)
    (htimes : ∀ c ∈ topic.conditions, c.IsLegible) :
    w.MirroredBy topic.metadata.annotationMap topic := by
  refine ⟨object, topic, hobject, hstored, rfl, fun _ _ => rfl, rfl, ?_⟩
  intro s hs
  refine ⟨fun c hc => htimes c ?_, hstored.isLegible_atProvider hs⟩
  rw [Topic.conditions, Option.mem_def.1 hs]
  exact hc

end World.MirroredBy

/-- Each chore keeps the mirror, and reads the clock twice at most. -/
theorem Chore.meets (chore : Chore) (notes : TextMap String) :
    Meets (Kept notes 2) chore.work (fun _ => Kept notes 0) fun _ => Kept notes 0 := by
  have hspare (w : World) (t : Topic) (h : Kept notes 2 w t) : Kept notes 0 w t :=
    Kept.less (Kept.less h)
  cases chore with
  | reconcile => exact reconcile_meets.bind fun _ => Keeps.pure ()
  | cleanup => exact cleanup_keeps.bind fun _ => Keeps.pure ()
  | observe =>
      have hpass := observe_keeps.weaken hspare (fun _ _ _ h => h) fun _ _ _ h => h
      exact hpass.bind fun _ => Keeps.pure ()
  | create =>
      have hpass := create_keeps.weaken hspare (fun _ _ _ h => h) fun _ _ _ h => h
      exact hpass.bind fun _ => Keeps.pure ()
  | delete => exact delete_keeps.weaken hspare (fun _ _ _ h => h) fun _ _ _ h => h

/-- Runs of chores on one topic at a faithful server, from a world that has its object on. -/
abbrev ChoreRun : World → Topic → List (Except PassError Unit) → World → Topic → Prop :=
  Run World.TimedPause fun work => ∃ chore : Chore, work = chore.work

/-- After any number of chores, whatever failed in them, the stored object can be read, and what is read
of it has the identity and the status of the topic.  No other annotation has changed. -/
theorem stored_object_follows {w₀ w : World} {t₀ t : Topic} {object₀ : Json}
    {results : List (Except PassError Unit)} (hobject : w₀.store.object? = some object₀)
    (hstored : t₀.StoredIn object₀) (htimes : ∀ c ∈ t₀.conditions, c.IsLegible)
    (hrun : ChoreRun w₀ t₀ results w t) :
    ∃ object stored, w.store.object? = some object ∧ Topic.ofJson? object = some stored ∧
      stored.metadata.annotationMap.get? Topic.externalNameKey =
        t.metadata.annotationMap.get? Topic.externalNameKey ∧
      stored.status.map Status.toSecond = t.status.map Status.toSecond ∧
      ∀ key, key ≠ Topic.externalNameKey →
        stored.metadata.annotationMap.get? key = t₀.metadata.annotationMap.get? key ∧
          t.metadata.annotationMap.get? key = t₀.metadata.annotationMap.get? key := by
  let notes := t₀.metadata.annotationMap
  -- Between chores nothing is known of the server but its object; each pause makes it faithful again.
  have hmirrored : w.MirroredBy notes t := by
    refine hrun.holds (fun _ w t => w.MirroredBy notes t) (fun _ => Kept notes 2) ?_ ?_ ?_
    · exact World.MirroredBy.refl hobject hstored htimes
    · exact fun _ _ _ _ h hpause => h.pause hpause
    · rintro _ _ ⟨chore, rfl⟩
      exact (chore.meets notes).weaken (fun _ _ h => h) (fun _ _ _ => World.MirroredBy.ofKept)
        fun _ _ _ => World.MirroredBy.ofKept
  obtain ⟨object, stored, hobject, hread, hmirrors⟩ := hmirrored
  refine ⟨object, stored, hobject, hread.ofJson?, ?_, hmirrors.status, ?_⟩
  · rw [hmirrors.annotations]
  · intro key hkey
    rw [hmirrors.annotations]
    exact ⟨hmirrors.others key hkey, hmirrors.others key hkey⟩

/-- A world whose server holds an object and refuses so many patches before it carries out one. -/
def servedWorld (object : Json) (refusals : Nat) : World where
  region := "us-east-1"
  store := .server "converge-operator"
    { object := object, prepared := List.replicate refusals (some ⟨500, .plain "boom"⟩) }
  clock := ⟨0⟩

theorem pause_servedWorld (object : Json) (refusals : Nat) :
    (servedWorld object refusals).TimedPause (servedWorld object refusals) where
  object := rfl
  faithful := by
    intro response hresponse
    obtain rfl := Option.some.inj (List.eq_of_mem_replicate hresponse)
    have hrefused : 400 ≤ 500 ∧ 500 < 600 := by decide
    rw [Response.topic, Response.read, if_pos hrefused]
    exact ⟨_, rfl⟩
  time := by
    constructor
    · show Instant.yearZero ≤ Instant.seconds ⟨0⟩
      decide
    · show Instant.seconds ⟨2⟩ ≤ Instant.lastSecond
      decide

/-- A remote topic whose identity could not be recorded is recorded nowhere. -/
theorem stored_object_follows_refused :
    let ran := (servedWorld ordersTopic.toJson 1).perform ordersTopic
      Chore.create.work
    ran.world.remote.contains (identityFor "us-east-1" "orders") = true ∧
      ran.topic.externalName = none ∧
      ∃ object stored, ran.world.store.object? = some object ∧ Topic.ofJson? object = some stored ∧
        stored.metadata.annotationMap.get? Topic.externalNameKey = none := by
  have hrun : ChoreRun (servedWorld ordersTopic.toJson 1) ordersTopic _ _ _ :=
    .step .start (pause_servedWorld _ 1) ⟨.create, rfl⟩
  obtain ⟨object, stored, hobject, hread, hname, -⟩ :=
    stored_object_follows rfl storedIn_ordersTopic nofun hrun
  refine ⟨by decide +kernel, by decide +kernel, object, stored, hobject, hread, hname.trans ?_⟩
  decide +kernel

/-- A topic with a condition from before the year zero. -/
def ancientTopic : Topic :=
  recordedTopic.withStatus
    { conditions := [{ Condition.available with lastTransition := some ⟨-63549324000000000000⟩ }] }

/-- The time is given with a sign and six digits, which is read but never written. -/
def ancientObject : Json :=
  .object [("metadata", recordedTopic.metadata.toJson), ("spec", recordedTopic.spec.toJson),
    ("status", .object [("conditions", .list [.object [
      ("lastTransitionTime", .text "-000044-03-15T10:00:00Z"), ("reason", .text "Available"),
      ("status", .text "True"), ("type", .text "Ready")]])])]

theorem storedIn_ancientTopic : ancientTopic.StoredIn ancientObject where
  isObject := ⟨_, rfl⟩
  distinct := ⟨by decide,
    ⟨by decide, ⟨by decide, trivial, trivial⟩, trivial, trivial, trivial⟩,
    ⟨by decide, ⟨by decide, trivial, trivial⟩, trivial⟩,
    ⟨by decide, ⟨⟨by decide, trivial, trivial, trivial, trivial, trivial⟩, trivial⟩, trivial⟩, trivial⟩
  read := rfl

/-- A world in which the attributes of a topic cannot be read. -/
def unreadWorld : World :=
  { servedWorld ancientObject 0 with
    disturbances := [{ operation := .getTopicAttributes, trouble := some (.transport "boom") }] }

/-- Once a status with such a time is written, the stored object cannot be read any more. -/
theorem stored_object_lost_ancient :
    unreadWorld.store.object? = some ancientObject ∧ ancientTopic.StoredIn ancientObject ∧
      ∃ results w t, ChoreRun unreadWorld ancientTopic results w t ∧
        ¬ ∃ object stored, w.store.object? = some object ∧ Topic.ofJson? object = some stored ∧
          stored.status.map Status.toSecond = t.status.map Status.toSecond := by
  have hpause := pause_servedWorld ancientObject 0
  have hunread : unreadWorld.TimedPause unreadWorld :=
    ⟨⟨rfl, hpause.faithful⟩, hpause.time.early, hpause.time.late⟩
  refine ⟨rfl, storedIn_ancientTopic, _, _, _, .step .start hunread ⟨.reconcile, rfl⟩, ?_⟩
  rintro ⟨object, stored, hobject, hread, -⟩
  have hlost : ((unreadWorld.perform ancientTopic
      Chore.reconcile.work).world.store.object?.bind Topic.ofJson?).isNone = true := by
    decide +kernel
  rw [hobject, Option.bind_some, hread] at hlost
  cases hlost

end TopicOperator
