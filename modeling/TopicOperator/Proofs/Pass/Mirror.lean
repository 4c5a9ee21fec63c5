import TopicOperator.Proofs.Pass.Lasting
import TopicOperator.Proofs.Store.Faithful

/-!
# The stored object as a mirror of the topic

With a faithful server, the stored object follows the topic that passes work on: it records the same
identity and the same status, and leaves all other annotations alone.  Every part of a pass keeps this,
because it changes the topic only after the write that says so has succeeded.
-/

namespace TopicOperator

open World Work Lifecycle

namespace World

/-- The clock can be read so many times more with a time that can be written and read back. -/
structure HasTime (w : World) (n : Nat) : Prop where
  early : Instant.yearZero ≤ w.clock.seconds
  late : (Instant.mk (w.clock.nanoseconds + n)).seconds ≤ Instant.lastSecond

theorem HasTime.less {w : World} {n : Nat} (h : w.HasTime (n + 1)) : w.HasTime n := by
  obtain ⟨hearly, hlate⟩ := h
  refine ⟨hearly, ?_⟩
  simp only [Instant.seconds, Instant.second] at hlate ⊢
  omega

/-- A reading of the clock is legible, and takes one of the readings that are left. -/
theorem HasTime.tick {w : World} {n : Nat} (h : w.HasTime (n + 1)) :
    w.clock.IsLegible ∧ ∀ w' : World, w'.clock = w.clock.next → w'.HasTime n := by
  obtain ⟨hearly, hlate⟩ := h
  constructor
  · refine ⟨hearly, ?_⟩
    simp only [Instant.seconds, Instant.second] at hlate ⊢
    omega
  · intro w' hclock
    constructor
    · rw [hclock]
      simp only [Instant.seconds, Instant.second, Instant.next] at hearly ⊢
      omega
    · rw [hclock]
      simp only [Instant.seconds, Instant.second, Instant.next] at hlate ⊢
      omega

end World

/-- A stored topic that agrees with a topic in identity and status, and in all other annotations with
given ones. -/
structure Topic.Mirrors (notes : TextMap String) (stored topic : Topic) : Prop where
  annotations : stored.metadata.annotationMap = topic.metadata.annotationMap
  others : ∀ key, key ≠ externalNameKey →
    topic.metadata.annotationMap.get? key = notes.get? key
  status : stored.status.map Status.toSecond = topic.status.map Status.toSecond
  legible : ∀ s ∈ topic.status, s.IsLegible

namespace Topic.Mirrors

variable {notes : TextMap String} {stored topic : Topic}

theorem withStatus (h : stored.Mirrors notes topic) {s : Status} (hs : s.IsLegible) :
    Mirrors notes { stored with status := some s.toSecond } (topic.withStatus s) where
  annotations := h.annotations
  others := h.others
  status := congrArg some s.toSecond_toSecond
  legible := fun _ hother => Option.some.inj hother ▸ hs

theorem setExternalName (h : stored.Mirrors notes topic) (identity : String) :
    Mirrors notes (stored.setExternalName identity) (topic.setExternalName identity) where
  annotations := by
    show stored.metadata.annotationMap.insert _ _ = topic.metadata.annotationMap.insert _ _
    rw [h.annotations]
  others key hkey := by
    show (topic.metadata.annotationMap.insert externalNameKey identity).get? key = _
    rw [TextMap.get?_insert, if_neg hkey, h.others key hkey]
  status := h.status
  legible := h.legible

/-- Parameters do not matter. -/
theorem withParameters (h : stored.Mirrors notes topic) (p q : Parameters) :
    Mirrors notes (stored.withParameters p) (topic.withParameters q) :=
  ⟨h.annotations, h.others, h.status, h.legible⟩

end Topic.Mirrors

/-- A faithful server holds a mirror of the topic, and the clock can be read so many times more. -/
def Kept (notes : TextMap String) (n : Nat) (w : World) (topic : Topic) : Prop :=
  ∃ (object : Json) (stored : Topic), w.store.Holds object ∧ stored.StoredIn object ∧
    stored.Mirrors notes topic ∧ w.HasTime n

section Parts

variable {notes : TextMap String} {n : Nat}

theorem Kept.less {w : World} {topic : Topic} (h : Kept notes (n + 1) w topic) :
    Kept notes n w topic := by
  obtain ⟨object, stored, hholds, hstored, hmirrors, htime⟩ := h
  exact ⟨object, stored, hholds, hstored, hmirrors, htime.less⟩

/-- What neither writes nor reads the clock keeps the mirror. -/
theorem Kept.of_eq {w w' : World} {topic : Topic} (h : Kept notes n w topic)
    (hstore : w'.store = w.store) (hclock : w'.clock = w.clock) : Kept notes n w' topic := by
  obtain ⟨object, stored, hholds, hstored, hmirrors, htime⟩ := h
  exact ⟨object, stored, hstore ▸ hholds, hstored, hmirrors, hclock ▸ htime.early, hclock ▸ htime.late⟩

theorem nextStatus_meets (updates : List Condition) (observation : Option Observation)
    (hobservation : ∀ o ∈ observation, o.IsLegible) {fail : PassError → World → Topic → Prop} :
    Meets (Kept notes (n + 1)) (nextStatus updates observation)
      (fun s w topic => Kept notes n w topic ∧ s.IsLegible) fail := by
  intro w topic ⟨object, stored, hholds, hstored, hmirrors, htime⟩
  rw [perform_nextStatus]
  obtain ⟨hclock, hless⟩ := htime.tick
  refine ⟨⟨object, stored, ?_, hstored, hmirrors, hless _ rfl⟩,
    Status.isLegible_next hclock hmirrors.legible updates hobservation⟩
  rw [after_store, Store.record_nil]
  exact hholds

theorem persistStatus_keeps {s : Status} (hs : s.IsLegible) :
    Preserves (Kept notes n) (persistStatus s) := by
  intro w topic ⟨object, stored, hholds, hstored, hmirrors, htime⟩
  simp only [persistStatus, perform_bind, perform_get, andThen_ok]
  by_cases hsame : topic.status = some s
  · rw [if_pos hsame]
    exact ⟨object, stored, hholds, hstored, hmirrors, htime⟩
  · rw [if_neg hsame, perform_bind, perform_write]
    -- The topic takes the status only after a write that was carried out, so both change or none.
    rcases hholds.write_storedIn topic (.status s) (hstored.statusPatch hs) with
      ⟨⟨e, he⟩, hsafe⟩ | ⟨hok, hdone⟩
    · rw [he]
      exact ⟨object, stored, hsafe, hstored, hmirrors, htime.early, htime.late⟩
    · rw [hok]
      exact ⟨_, _, hdone, hstored.statusPatch hs, hmirrors.withStatus hs, htime.early, htime.late⟩

/-- Recording an error fails for nobody but the log. -/
theorem recordFailure_meets (e : PassError) {fail : PassError → World → Topic → Prop} :
    Meets (Kept notes (n + 1)) (recordFailure e) (fun _ => Kept notes n) fail := by
  refine (nextStatus_meets (failureConditions e) none nofun).bind fun s => Meets.of_and fun hs => ?_
  refine (persistStatus_keeps hs).attempt.bind fun outcome => ?_
  cases outcome with
  | ok value => exact Meets.pure () fun _ _ h => h
  | error cause => exact fun w topic h => h.of_eq rfl rfl

theorem Kept.call {w : World} {topic : Topic} (h : Kept notes n w topic) {α : Type}
    (operation : Operation) (address : String) (act : Remote → Except RemoteError α × Remote) :
    Kept notes n (w.call operation address act).2 topic := by
  obtain ⟨_, _, _, _, hworld, -⟩ := w.call_eq operation address act
  rw [hworld]
  exact h.of_eq rfl rfl

theorem overlooks_kept : Overlooks (Kept notes n) where
  log _ := fun _ _ h => h.of_eq rfl rfl
  fetchAttributes _ := fun _ _ h => h.call _ _ _
  fetchTags _ := fun _ _ h => h.call _ _ _

/-- The identity is recorded in the stored object first and in the topic then. -/
theorem recordIdentity_keeps {α : Type} (identity : String) {next : Work α}
    (hnext : Preserves (Kept notes n) next) :
    Preserves (Kept notes n) (do
      Work.write (.externalName identity) (.recordExternalName identity)
      modify fun topic => topic.setExternalName identity
      next) := by
  intro w topic ⟨object, stored, hholds, hstored, hmirrors, htime⟩
  rw [perform_bind, perform_write]
  have hread := hstored.externalNamePatch identity
  rcases hholds.write_storedIn topic (.externalName identity) hread with
    ⟨⟨e, he⟩, hsafe⟩ | ⟨hok, hdone⟩
  · rw [he]
    exact ⟨object, stored, hsafe, hstored, hmirrors, htime.early, htime.late⟩
  · rw [hok]
    apply hnext
    exact ⟨_, _, hdone, hread, hmirrors.setExternalName identity, htime.early, htime.late⟩

theorem mutate_keeps (m : Mutation) : Preserves (Kept notes n) (Work.mutate m) :=
  Keeps.mutate (fun _ _ _ _ h => h) fun _ _ h => h.call _ _ _

theorem create_keeps : Preserves (Kept notes n) create := by
  refine Keeps.get.bind fun topic => (mutate_keeps _).bind fun answer => ?_
  refine Keeps.bind (Keeps.orElse answer fun _ _ _ h => h) fun identity => ?_
  exact recordIdentity_keeps identity
    ((Keeps.log overlooks_kept.log _ _ _).bind fun _ => Keeps.pure identity)

theorem delete_keeps : Preserves (Kept notes n) delete := by
  refine Keeps.get.bind fun topic => ?_
  cases topic.externalName with
  | none => exact Keeps.log overlooks_kept.log _ _ _
  | some identity =>
      refine (mutate_keeps _).bind fun answer => ?_
      cases answer with
      | ok value => exact Keeps.log overlooks_kept.log _ _ _
      | error cause =>
          cases cause with
          | notFound => exact Keeps.log overlooks_kept.log _ _ _
          | transport => exact Meets.throw _ fun _ _ h => h

/-- A pass that goes away records that first, and then deletes the remote topic. -/
theorem cleanup_keeps :
    Meets (Kept notes (n + 2)) cleanup (fun _ => Kept notes n) fun _ => Kept notes n := by
  refine (nextStatus_meets [.deleting] none nofun).bind fun s => Meets.of_and fun hs => ?_
  refine ((persistStatus_keeps hs).keeps fun _ _ _ => Kept.less).bind fun _ => ?_
  refine delete_keeps.attempt.bind fun outcome => ?_
  cases outcome with
  | ok value => exact Meets.pure _ fun _ _ h => h.less
  | error e => exact (recordFailure_meets e).bind fun _ => Meets.throw e fun _ _ h => h

theorem fillParameters_keeps (snapshot : Snapshot) :
    Preserves (Kept notes n) (fillParameters snapshot) := by
  intro w topic ⟨object, stored, hholds, hstored, hmirrors, htime⟩
  simp only [fillParameters, perform_bind, perform_get, andThen_ok]
  by_cases hgains : topic.parameters.gainsFrom snapshot = true
  · simp only [if_pos hgains, perform_bind, perform_modify, andThen_ok, perform_log, perform_write]
    -- The topic is filled even if the write fails, but a mirror does not show parameters.
    let p := topic.parameters.completedBy snapshot
    obtain ⟨base, hread, -⟩ := hstored.parametersPatch p
    rcases hholds.write_storedIn (topic.withParameters p) (.parameters p) hread with
      ⟨⟨e, he⟩, hsafe⟩ | ⟨hok, hdone⟩
    · simp only [World.log, he, p]
      exact ⟨object, stored, hsafe, hstored, hmirrors.withParameters stored.parameters p,
        htime.early, htime.late⟩
    · simp only [World.log, hok, p]
      exact ⟨_, _, hdone, hread, hmirrors.withParameters _ _, htime.early, htime.late⟩
  · rw [if_neg hgains]
    exact ⟨object, stored, hholds, hstored, hmirrors, htime⟩

theorem observe_keeps : Preserves (Kept notes n) observe :=
  overlooks_kept.observe (fun _ _ _ _ h => h) fillParameters_keeps

theorem converge_meets :
    Meets (Kept notes (n + 1)) converge (fun r w topic => Kept notes n w topic ∧ r.2.IsLegible)
      fun _ => Kept notes n := by
  refine (observe_keeps.keeps fun _ _ _ => Kept.less).bind fun sighting => ?_
  cases sighting with
  | absent =>
      exact (create_keeps.keeps fun _ _ _ => Kept.less).bind fun identity =>
        (nextStatus_meets _ none nofun).bind fun s => Meets.pure _ fun _ _ h => h
  | present identity snapshot upToDate filled =>
      have halign : Preserves (Kept notes (n + 1)) (align identity snapshot upToDate) :=
        Keeps.align (fun _ _ _ _ h => h) overlooks_kept.log (fun _ _ _ _ h => h.call _ _ _) snapshot upToDate
      refine (halign.keeps fun _ _ _ => Kept.less).bind fun outcome => ?_
      refine (nextStatus_meets _ (some (Observation.ofAttributes snapshot.attributes)) ?_).bind
        fun s => Meets.pure _ fun _ _ h => h
      intro o ho
      exact Option.some.inj ho ▸ Observation.isLegible_ofAttributes _

theorem reconcile_meets :
    Meets (Kept notes (n + 2)) reconcile (fun _ => Kept notes n) fun _ => Kept notes n := by
  refine converge_meets.attempt.bind fun outcome => ?_
  cases outcome with
  | ok value =>
      obtain ⟨outcome, s⟩ := value
      refine Meets.of_and fun hs => ?_
      exact ((persistStatus_keeps hs).keeps fun _ _ _ => Kept.less).bind fun _ =>
        Meets.pure outcome fun _ _ => Kept.less
  | error e => exact (recordFailure_meets e).bind fun _ => Meets.throw e fun _ _ h => h

end Parts

end TopicOperator
