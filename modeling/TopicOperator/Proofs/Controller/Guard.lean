import Mathlib.Logic.Relation
import TopicOperator.Proofs.Controller.PassTold
import TopicOperator.Proofs.Pass.Remains

/-!
# The finalizer guards the remote topic

Passes of the controller over one stored topic, one after the other.  Between any two queries the
surroundings may change, the remote topic may drift, and the deletion of the object may be requested;
writes, patches and calls may fail or be answered without being carried out, and the controller may be
stopped.  The remote service is only called while the stored object holds the finalizer, and as long as
the recorded remote topic exists the object holds it.

The one thing that would break the latter is a deletion that is answered as if there were no such topic
while there is one, because a topic that the remote service does not know counts as deleted.
-/

namespace TopicOperator

open Relation

/-- If a deletion is answered that there is no such topic, there is none. -/
def World.DeniesTruly (w : World) : Query → Prop
  | .mutate (.delete identity) => ∀ e, (w.answer (.mutate (.delete identity))).1 = .ok (.error e) →
      e.isNotFound = true → w.remote.contains identity = false
  | _ => True

namespace Controller

/-- A pass that is going on: the topic that it has read, and what it still does. -/
structure Underway where
  topic : Topic
  rest : Program (Except ControllerError Action)

/-- The surroundings of a stored topic, and the pass that is going on. -/
structure Course where
  world : World
  pass : Option Underway

/-- One step of what happens.  A query is answered only in surroundings that allow it. -/
inductive Step (options : ControllerOptions) (allowed : World → Query → Prop) :
    Course → Course → Prop
  /-- Anything changes but the remote topics and the stored object: the time, what keeps calls and
  connections from the remote service, the answers that the server will give. -/
  | outside {w w' : World} {pass : Option Underway} (hremote : w'.remote.topics = w.remote.topics)
      (hstore : w'.store.object? = w.store.object?) : Step options allowed ⟨w, pass⟩ ⟨w', pass⟩
  /-- Attributes and tags of a remote topic change from outside. -/
  | drift {w : World} {pass : Option Underway} (identity : String)
      (f : RemoteTopic → RemoteTopic) :
      Step options allowed ⟨w, pass⟩ ⟨{ w with remote := (w.remote.drift identity f).2 }, pass⟩
  | requestDeletion {w : World} {pass : Option Underway} {time : Instant} (htime : time.IsLegible) :
      Step options allowed ⟨w, pass⟩ ⟨{ w with store := w.store.requestDeletion time }, pass⟩
  /-- A pass starts from the stored object. -/
  | start {w : World} {object : Json} {t : Topic} (hobject : w.store.object? = some object)
      (hread : Topic.ofJson? object = some t) :
      Step options allowed ⟨w, none⟩ ⟨w, some ⟨t, (pass options t).run⟩⟩
  | ask {w : World} {t : Topic} {q : Query}
      {next : q.Answer → Program (Except ControllerError Action)} (hallowed : allowed w q) :
      Step options allowed ⟨w, some ⟨t, .ask q next⟩⟩
        ⟨(w.answer q).2, some ⟨t, next (w.answer q).1⟩⟩
  /-- A pass is over: it is done, or the controller was stopped in the middle of it. -/
  | stop {w : World} {pass : Underway} : Step options allowed ⟨w, some pass⟩ ⟨w, none⟩

/-- What can come of a stored topic. -/
abbrev Reaches (options : ControllerOptions) (allowed : World → Query → Prop) :
    Course → Course → Prop :=
  ReflTransGen (Step options allowed)

end Controller

namespace Metadata.StoredIn

variable {m : Metadata} {object : Json}

/-- The topic that is read from an object has the metadata that the object holds. -/
theorem metadata_eq (h : m.StoredIn object) {t : Topic} (hread : Topic.ofJson? object = some t) :
    t.metadata = m := by
  have ht : t.StoredIn object := by
    refine ⟨h.isObject, h.distinct, ?_⟩
    unfold Topic.ofJson? at hread
    cases hread' : Topic.reader (.ofJson object) with
    | error e =>
        rw [hread'] at hread
        cases hread
    | ok found =>
        rw [hread'] at hread
        exact congrArg _ (Option.some.inj hread)
  exact Except.ok.inj (ht.read_metadata.symm.trans h.read)

end Metadata.StoredIn

theorem Metadata.HoldsFinalizer.congr {m m' : Metadata} (h : m.HoldsFinalizer)
    (hfinalizers : m'.finalizers = m.finalizers) : m'.HoldsFinalizer := by
  unfold Metadata.HoldsFinalizer Metadata.finalizerList
  rw [hfinalizers]
  exact h

theorem Query.ne_mutate {q : Query} (h : ¬ q.IsRemote) (m : Mutation) : q ≠ .mutate m := by
  rintro rfl
  exact h trivial

/-- Attributes and tags that change from outside make no difference to which topics there are. -/
theorem Remote.contains_drift (remote : Remote) (identity : String) (f : RemoteTopic → RemoteTopic)
    (key : String) : (remote.drift identity f).2.contains key = remote.contains key := by
  unfold drift
  split
  · rename_i topic hfound
    show ((remote.topics.insert identity (f topic)).get? key).isSome = (remote.topics.get? key).isSome
    rw [TextMap.get?_insert]
    split
    · rename_i hkey
      rw [hkey, hfound]
      rfl
    · rfl
  · rfl

/-- The remote topic that metadata record does not exist. -/
def World.Lacks (w : World) (m : Metadata) : Prop :=
  ∀ identity, m.recordedName = some identity → w.remote.contains identity = false

namespace World

variable {w w' : World} {m m' : Metadata}

theorem Lacks.mono (h : w.Lacks m) (hname : m'.recordedName = m.recordedName)
    (hremote : ∀ key, w.remote.contains key = false → w'.remote.contains key = false) :
    w'.Lacks m' :=
  fun identity hidentity => hremote identity (h identity (hname ▸ hidentity))

/-- An answer changes of the stored metadata at most what the query is about. -/
theorem holdsMetadata_answer (h : w.store.HoldsMetadata m) {q : Query} (hq : q.Handles) :
    ∃ m', (w.answer q).2.store.HoldsMetadata m' ∧
      (¬ q.PatchesFinalizers → m'.finalizers = m.finalizers) ∧
      (¬ q.WritesIdentity → m'.recordedName = m.recordedName) := by
  have hcall : ∀ {α : Type} (operation : Operation) (address : String)
      (act : Remote → Except RemoteError α × Remote),
      (w.call operation address act).2.store.HoldsMetadata m := by
    intro α operation address act
    obtain ⟨_, _, _, _, hworld, -⟩ := w.call_eq operation address act
    rw [hworld]
    exact h
  cases q with
  | fetchAttributes | fetchTags | mutate =>
      exact ⟨m, hcall _ _ _, fun _ => rfl, fun _ => rfl⟩
  | connect region =>
      refine ⟨m, ?_, fun _ => rfl, fun _ => rfl⟩
      rw [answer, connect]
      cases w.connectRefusal <;> exact h
  | now | log => exact ⟨m, h, fun _ => rfl, fun _ => rfl⟩
  | write topic change =>
      rcases h.write topic change with hsame | ⟨identity, rfl, hrecorded⟩
      · exact ⟨m, hsame, fun _ => rfl, fun _ => rfl⟩
      · exact ⟨_, hrecorded, fun _ => rfl, fun hnot => absurd trivial hnot⟩
  | patchFinalizers space name steps =>
      obtain ⟨finalizers, hafter⟩ := h.patchFinalizers space name hq
      exact ⟨_, hafter, fun hnot => absurd trivial hnot, fun _ => rfl⟩

/-- Remote topics come and go only by changing calls. -/
theorem contains_answer (w : World) {q : Query} (hq : ∀ m, q ≠ .mutate m) (key : String) :
    (w.answer q).2.remote.contains key = w.remote.contains key :=
  congrArg Option.isSome (w.get?_answer_of_ne fun m hm => absurd hm (hq m))

/-- A deletion adds no remote topic. -/
theorem contains_answer_delete (w : World) (identity key : String)
    (h : w.remote.contains key = false) :
    (w.answer (.mutate (.delete identity))).2.remote.contains key = false := by
  obtain ⟨-, ⟨hremote, -⟩ | ⟨hremote, -⟩⟩ := w.answer_mutate (.delete identity)
  · rw [hremote, Remote.contains, TextMap.contains]
    rcases w.remote.mutate_delete w.region identity with ⟨-, hsame⟩ | ⟨-, herased⟩
    · rw [hsame]
      exact h
    · rw [herased, TextMap.get?_erase]
      split
      · rfl
      · exact h
  · rw [hremote]
    exact h

/-- Where a deletion counts as done and was answered truly, there is no topic of the identity. -/
theorem contains_of_deleted {identity : String}
    (htruly : w.DeniesTruly (.mutate (.delete identity)))
    (hdone : Lifecycle.deletionResult identity (w.answer (.mutate (.delete identity))).1 = .ok ()) :
    (w.answer (.mutate (.delete identity))).2.remote.contains identity = false := by
  cases hcalled : (w.answer (.mutate (.delete identity))).1 with
  | error interruption =>
      rw [hcalled] at hdone
      cases hdone
  | ok reply =>
      cases reply with
      | error e =>
          rw [hcalled, Lifecycle.deletionResult] at hdone
          split at hdone
          · rename_i hunknown
            exact w.contains_answer_delete identity identity (htruly e hcalled hunknown)
          · cases hdone
      | ok name =>
          obtain ⟨-, ⟨hremote, hanswer⟩ | ⟨-, hrefused⟩⟩ := w.answer_mutate (.delete identity)
          · have hok := Except.ok.inj (hanswer.symm.trans hcalled)
            rcases w.remote.mutate_delete w.region identity with ⟨⟨e, he, -⟩, -⟩ | ⟨-, herased⟩
            · cases he.symm.trans hok
            · rw [hremote, Remote.contains, TextMap.contains, herased, TextMap.get?_erase, if_pos rfl]
              rfl
          · obtain ⟨e, he, -⟩ := hrefused _ hcalled
            cases he

/-- Only a disturbance can answer wrongly that there is no such topic. -/
theorem deniesTruly_of_not_denies (h : ¬ w.Denies .deleteTopic) (q : Query) : w.DeniesTruly q := by
  cases q with
  | mutate m =>
      cases m with
      | delete identity =>
          intro e hcalled hunknown
          obtain ⟨-, ⟨-, hanswer⟩ | ⟨-, hrefused⟩⟩ := w.answer_mutate (.delete identity)
          · have herror := Except.ok.inj (hanswer.symm.trans hcalled)
            rcases w.remote.mutate_delete w.region identity with ⟨⟨e', he, habsent⟩, -⟩ | ⟨hok, -⟩
            · obtain rfl := Except.error.inj (he.symm.trans herror)
              exact habsent hunknown
            · cases hok.symm.trans herror
          · obtain ⟨_, heq, hdenies⟩ := hrefused _ hcalled
            obtain rfl := Except.error.inj heq
            exact absurd (hdenies hunknown) h
      | create | setAttribute | addTags | removeTags => trivial
  | _ => trivial

/-- No disturbance comes of an answer. -/
theorem disturbances_answer (h : w.disturbances = []) (q : Query) :
    (w.answer q).2.disturbances = [] := by
  have hcall : ∀ {α : Type} (operation : Operation) (address : String)
      (act : Remote → Except RemoteError α × Remote),
      (w.call operation address act).2.disturbances = [] := by
    intro α operation address act
    have hmet : (w.encounter operation address).2.disturbances = [] := by
      unfold encounter
      rw [h]
      split <;> exact h
    unfold call
    split <;> simp_all
  cases q with
  | fetchAttributes | fetchTags | mutate => exact hcall _ _ _
  | connect region =>
      rw [answer, connect]
      cases w.connectRefusal <;> exact h
  | now | log | write | patchFinalizers => exact h

/-- Where the finalizer is being released no remote topic comes into being, and those that count as
deleted are gone if this was answered truly. -/
theorem contains_answer_releases {truly : Prop} {t : Topic} {talk : Dialogue} {q : Query}
    (hreleases : q.Releases t talk) (htruly : truly → w.DeniesTruly q)
    (hdeleted : truly → ∀ identity, talk.Deletes identity → w.remote.contains identity = false) :
    (∀ key, w.remote.contains key = false → (w.answer q).2.remote.contains key = false) ∧
      (truly → ∀ identity, Dialogue.Deletes (talk ++ [⟨q, (w.answer q).1⟩]) identity →
        (w.answer q).2.remote.contains identity = false) := by
  by_cases hcall : q.IsRemote
  · obtain ⟨⟨identity, rfl⟩, -⟩ := hreleases.deletes hcall
    have hremote := w.contains_answer_delete identity
    refine ⟨hremote, ?_⟩
    rintro h other ⟨answer, hmem, hdone⟩
    rcases List.mem_append.1 hmem with hmem | hmem
    · exact hremote other (hdeleted h other ⟨answer, hmem, hdone⟩)
    · cases List.mem_singleton.1 hmem
      exact contains_of_deleted (htruly h) hdone
  · have hsame := w.contains_answer (Query.ne_mutate hcall)
    refine ⟨fun key hkey => (hsame key).trans hkey, ?_⟩
    rintro h other ⟨answer, hmem, hdone⟩
    rcases List.mem_append.1 hmem with hmem | hmem
    · exact (hsame other).trans (hdeleted h other ⟨answer, hmem, hdone⟩)
    · have hquery : Query.mutate (.delete other) = q :=
        congrArg Exchange.query (List.mem_singleton.1 hmem)
      exact absurd (hquery ▸ trivial) hcall

end World

namespace Controller

variable {options : ControllerOptions} {allowed : World → Query → Prop} {truly : Prop} {w w' : World}
  {m m' : Metadata} {t : Topic}

/-- How a pass that is going on treats the remote topic, by what it found when it started.  That remote
topics are gone is only known if deletions are answered truly. -/
inductive Guards (truly : Prop) (w : World) (m : Metadata) : Underway → Prop
  /-- There is no remote topic to guard, and none is made. -/
  | attaching {t : Topic} {rest : Program (Except ControllerError Action)}
      (hheld : ¬ t.metadata.HoldsFinalizer) (hlacks : truly → w.Lacks m) {talk : Dialogue}
      (hrest : rest.Obeys (fun _ => Query.Attaches) talk) : Guards truly w m ⟨t, rest⟩
  /-- The finalizer is there and stays. -/
  | reconciling {t : Topic} {rest : Program (Except ControllerError Action)}
      (hheld : t.metadata.HoldsFinalizer) (hholds : m.HoldsFinalizer) {talk : Dialogue}
      (hrest : rest.Obeys (fun _ q => ¬ q.PatchesFinalizers) talk) : Guards truly w m ⟨t, rest⟩
  /-- The finalizer is there until the remote topic is gone. -/
  | releasing {t : Topic} {rest : Program (Except ControllerError Action)}
      (hheld : t.metadata.HoldsFinalizer) {talk : Dialogue}
      (hname : m.recordedName = t.externalName)
      (hdeleted : truly → ∀ identity, talk.Deletes identity → w.remote.contains identity = false)
      (hguarded : m.HoldsFinalizer ∨ (truly → w.Lacks m) ∧ ∃ e ∈ talk, e.query.PatchesFinalizers)
      (hrest : rest.Obeys (Query.Releases t) talk) : Guards truly w m ⟨t, rest⟩

namespace Guards

variable {pass : Underway}

/-- The stored object holds the finalizer, or the recorded remote topic does not exist. -/
theorem safe (h : Guards truly w m pass) : m.HoldsFinalizer ∨ (truly → w.Lacks m) := by
  cases h with
  | attaching _ hlacks => exact .inr hlacks
  | reconciling _ hholds => exact .inl hholds
  | releasing _ _ _ hguarded => exact hguarded.imp_right And.left

/-- A change of other metadata, while no remote topic comes into being, makes no difference. -/
theorem mono (h : Guards truly w m pass) (hfinalizers : m'.finalizers = m.finalizers)
    (hname : m'.recordedName = m.recordedName)
    (hremote : ∀ key, w.remote.contains key = false → w'.remote.contains key = false) :
    Guards truly w' m' pass := by
  have hlacks' (hlacks : truly → w.Lacks m) (h : truly) : w'.Lacks m' :=
    (hlacks h).mono hname hremote
  cases h with
  | attaching hfree hlacks hrest => exact .attaching hfree (hlacks' hlacks) hrest
  | reconciling hread hholds hrest => exact .reconciling hread (hholds.congr hfinalizers) hrest
  | releasing hread hrecorded hdeleted hguarded hrest =>
      refine .releasing hread (hname.trans hrecorded)
        (fun h identity hidentity => hremote identity (hdeleted h identity hidentity)) ?_ hrest
      exact hguarded.imp (·.congr hfinalizers) (And.imp_left hlacks')

/-- A pass that starts from safe metadata guards the remote topic. -/
theorem start (hsafe : t.metadata.HoldsFinalizer ∨ (truly → w.Lacks t.metadata)) :
    Guards truly w t.metadata ⟨t, (Controller.pass options t).run⟩ := by
  by_cases hheld : t.metadata.HoldsFinalizer
  · cases hdeleting : t.metadata.isDeleting with
    | false => exact .reconciling hheld hheld (pass_obeys_reconcile hheld hdeleting [])
    | true =>
        refine .releasing hheld rfl ?_ (.inl hheld) (pass_obeys_release hheld hdeleting)
        rintro - identity ⟨answer, hmem, -⟩
        cases hmem
  · exact .attaching hheld (hsafe.resolve_left hheld) (pass_obeys_attach hheld [])

/-- The remote service is only called while the finalizer is there. -/
theorem called {q : Query} {next : q.Answer → Program (Except ControllerError Action)}
    (h : Guards truly w m ⟨t, .ask q next⟩) (hremote : q.IsRemote) :
    t.metadata.HoldsFinalizer ∧ m.HoldsFinalizer := by
  cases h with
  | attaching _ _ hrest =>
      cases hrest with
      | ask hattaches _ => exact absurd hremote hattaches.not_isRemote
  | reconciling hheld hholds => exact ⟨hheld, hholds⟩
  | releasing hheld _ _ hguarded hrest =>
      cases hrest with
      | ask hreleases _ =>
          refine ⟨hheld, hguarded.resolve_right ?_⟩
          rintro ⟨-, e, he, hpatch⟩
          exact (hreleases.deletes hremote).2 e he hpatch

/-- Whatever a query is answered, the remote topic stays guarded. -/
theorem ask {q : Query} {next : q.Answer → Program (Except ControllerError Action)}
    (h : Guards truly w m ⟨t, .ask q next⟩) (hstore : w.store.HoldsMetadata m)
    (htruly : truly → w.DeniesTruly q) : ∃ m', (w.answer q).2.store.HoldsMetadata m' ∧
      Guards truly (w.answer q).2 m' ⟨t, next (w.answer q).1⟩ := by
  cases h with
  | attaching hfree hlacks hrest =>
      cases hrest with
      | ask hattaches hnext =>
          obtain ⟨m', hm', -, hname⟩ := World.holdsMetadata_answer hstore hattaches.handles
          refine ⟨m', hm', .attaching hfree (fun h => ?_) (hnext _)⟩
          refine (hlacks h).mono (hname hattaches.not_writesIdentity) fun key hkey => ?_
          rw [w.contains_answer (Query.ne_mutate hattaches.not_isRemote), hkey]
  | reconciling hheld hholds hrest =>
      cases hrest with
      | ask hkeeps hnext =>
          obtain ⟨m', hm', hfinalizers, -⟩ :=
            World.holdsMetadata_answer hstore (Query.handles_of_not_patchesFinalizers hkeeps)
          exact ⟨m', hm', .reconciling hheld (hholds.congr (hfinalizers hkeeps)) (hnext _)⟩
  | @releasing _ _ hheld talk hname hdeleted hguarded hrest =>
      cases hrest with
      | ask hreleases hnext =>
          obtain ⟨m', hm', hfinalizers, hname'⟩ :=
            World.holdsMetadata_answer hstore hreleases.handles
          have hsame := hname' hreleases.keeps
          obtain ⟨hremote, hlater⟩ := World.contains_answer_releases hreleases htruly hdeleted
          refine ⟨m', hm', .releasing hheld (hsame.trans hname) hlater ?_ (hnext _)⟩
          by_cases hpatch : q.PatchesFinalizers
          · -- The finalizer may go, because the recorded remote topic is gone.
            refine .inr ⟨fun h identity hidentity => ?_, _,
              List.mem_append_right _ List.mem_cons_self, hpatch⟩
            rw [hsame, hname] at hidentity
            exact hremote identity (hdeleted h identity (hreleases.last hpatch identity hidentity))
          · refine hguarded.imp (·.congr (hfinalizers hpatch)) ?_
            rintro ⟨hlacks, e, he, hearlier⟩
            exact ⟨fun h => (hlacks h).mono hsame hremote, e, List.mem_append_left _ he, hearlier⟩

end Guards

/-- The stored object holds some metadata that, with a pass that is going on, guard the remote topic. -/
def Course.Safe (truly : Prop) (course : Course) : Prop :=
  ∃ m, course.world.store.HoldsMetadata m ∧
    match course.pass with
    | none => m.HoldsFinalizer ∨ (truly → course.world.Lacks m)
    | some pass => Guards truly course.world m pass

/-- Changes that touch neither the finalizers nor the recorded identity, and bring no remote topic into
being, are safe. -/
theorem Course.Safe.mono {pass : Option Underway} (h : Course.Safe truly ⟨w, pass⟩)
    (hstore : ∀ m, w.store.HoldsMetadata m → ∃ m', w'.store.HoldsMetadata m' ∧
      m'.finalizers = m.finalizers ∧ m'.recordedName = m.recordedName)
    (hremote : ∀ key, w.remote.contains key = false → w'.remote.contains key = false) :
    Course.Safe truly ⟨w', pass⟩ := by
  obtain ⟨m, hm, hguards⟩ := h
  obtain ⟨m', hm', hfinalizers, hname⟩ := hstore m hm
  refine ⟨m', hm', ?_⟩
  cases pass with
  | none => exact hguards.imp (·.congr hfinalizers) fun hlacks h => (hlacks h).mono hname hremote
  | some pass => exact hguards.mono hfinalizers hname hremote

theorem Course.Safe.step {s s' : Course} (h : s.Safe truly)
    (hallowed : ∀ w q, allowed w q → truly → w.DeniesTruly q) (hstep : Step options allowed s s') :
    s'.Safe truly := by
  cases hstep with
  | outside hremote hstore =>
      refine h.mono ?_ fun key hkey => ?_
      · rintro m ⟨object, hobject, hm⟩
        exact ⟨m, ⟨object, hstore.trans hobject, hm⟩, rfl, rfl⟩
      · rw [Remote.contains, hremote]
        exact hkey
  | @drift w pass identity f =>
      refine h.mono (fun m hm => ⟨m, hm, rfl, rfl⟩) fun key hkey => ?_
      show (w.remote.drift identity f).2.contains key = false
      rw [Remote.contains_drift]
      exact hkey
  | requestDeletion htime =>
      refine h.mono (fun m hm => ?_) fun _ hkey => hkey
      exact ⟨_, hm.requestDeletion htime, rfl, rfl⟩
  | start hobject hread =>
      -- The pass starts from the topic that is stored, so their metadata are the same.
      obtain ⟨m, ⟨object, hstored, hm⟩, hsafe⟩ := h
      obtain rfl := Option.some.inj (hobject.symm.trans hstored)
      obtain rfl := hm.metadata_eq hread
      exact ⟨_, ⟨_, hstored, hm⟩, .start hsafe⟩
  | ask hasked =>
      obtain ⟨m, hm, hguards⟩ := h
      exact hguards.ask hm (hallowed _ _ hasked)
  | stop =>
      obtain ⟨m, hm, hguards⟩ := h
      exact ⟨m, hm, hguards.safe⟩

/-- Whatever happens around a stored topic that records no identity at first, the remote service is only
called while the stored object holds the finalizer; and if no deletion is answered that there is no such
topic while there is one, the recorded remote topic exists only while the stored object holds the
finalizer. -/
theorem finalizer_guards_remote_topic {w₀ : World} {object : Json} {t₀ : Topic}
    (hobject : w₀.store.object? = some object) (hstored : t₀.StoredIn object)
    (hnew : t₀.externalName = none) {s : Course}
    (hreaches : Reaches options allowed ⟨w₀, none⟩ s) :
    ∃ m, s.world.store.HoldsMetadata m ∧
      ((∀ w q, allowed w q → w.DeniesTruly q) → ∀ identity, m.recordedName = some identity →
        s.world.remote.contains identity = true → m.HoldsFinalizer) ∧
      ∀ t q next, s.pass = some ⟨t, .ask q next⟩ → q.IsRemote →
        t.metadata.HoldsFinalizer ∧ m.HoldsFinalizer := by
  -- No identity is recorded at first, so nothing that is recorded is left over.
  have hstart : Course.Safe (∀ w q, allowed w q → w.DeniesTruly q) ⟨w₀, none⟩ := by
    refine ⟨_, ⟨object, hobject, hstored.toMetadata⟩, .inr fun _ identity hidentity => ?_⟩
    cases hnew.symm.trans hidentity
  have hsafe : s.Safe (∀ w q, allowed w q → w.DeniesTruly q) := by
    induction hreaches with
    | refl => exact hstart
    | tail _ hstep ih => exact ih.step (fun w q hasked htruly => htruly w q hasked) hstep
  obtain ⟨m, hm, hguards⟩ := hsafe
  refine ⟨m, hm, fun htruly identity hidentity hthere => ?_, fun t q next hpass hremote => ?_⟩
  · have hguarded : m.HoldsFinalizer ∨
        ((∀ w q, allowed w q → w.DeniesTruly q) → s.world.Lacks m) := by
      cases hpass : s.pass with
      | none =>
          rw [hpass] at hguards
          exact hguards
      | some pass =>
          rw [hpass] at hguards
          exact hguards.safe
    refine hguarded.resolve_right fun hlacks => ?_
    cases (hlacks htruly identity hidentity).symm.trans hthere
  · rw [hpass] at hguards
    exact hguards.called hremote

/-- The world after a pass over the stored object, if that can be read. -/
def afterPass (options : ControllerOptions) (w : World) : World :=
  match w.store.object?.bind Topic.ofJson? with
  | some t => (w.run (pass options t).run).2
  | none => w

/-- A pass can go on to its end where the surroundings stay such that its queries are allowed. -/
theorem reaches_run (calm : World → Prop) (hcalm : ∀ w q, calm w → allowed w q ∧ calm (w.answer q).2)
    (hw : calm w) (t : Topic) (rest : Program (Except ControllerError Action)) :
    Reaches options allowed ⟨w, some ⟨t, rest⟩⟩ ⟨(w.run rest).2, none⟩ := by
  induction rest generalizing w with
  | done result => exact .single .stop
  | ask q next ih =>
      obtain ⟨hallowed, hnext⟩ := hcalm w q hw
      exact .head (.ask hallowed) (ih _ hnext)

theorem reaches_afterPass (calm : World → Prop)
    (hcalm : ∀ w q, calm w → allowed w q ∧ calm (w.answer q).2) (hw : calm w) :
    Reaches options allowed ⟨w, none⟩ ⟨afterPass options w, none⟩ := by
  unfold afterPass
  split
  · rename_i t ht
    obtain ⟨object, hobject, hread⟩ := Option.bind_eq_some_iff.1 ht
    exact .head (.start hobject hread) (reaches_run calm hcalm hw t _)
  · exact .refl

/-- Where no disturbance waits, deletions are answered truly. -/
theorem reaches_afterPass_of_undisturbed (options : ControllerOptions) (hw : w.disturbances = []) :
    Reaches options World.DeniesTruly ⟨w, none⟩ ⟨afterPass options w, none⟩ := by
  refine reaches_afterPass (·.disturbances = []) (fun w q hw => ?_) hw
  refine ⟨World.deniesTruly_of_not_denies ?_ q, World.disturbances_answer hw q⟩
  rintro ⟨d, hd, -⟩
  rw [hw] at hd
  cases hd

/-- What can be seen from outside: the identity that the stored topic records, whether it holds the
finalizer, and whether there is a remote topic of some identity. -/
def glimpse (w : World) (identity : String) : Option (Option String × Bool) × Bool :=
  ((w.store.object?.bind Topic.ofJson?).map fun t =>
    (t.externalName, t.metadata.finalizerList.contains finalizerName), w.remote.contains identity)

theorem of_glimpse {identity : String} {name : Option String} {held there : Bool}
    (h : glimpse w identity = (some (name, held), there)) : ∃ object t,
      w.store.object? = some object ∧ Topic.ofJson? object = some t ∧ t.externalName = name ∧
        (t.metadata.HoldsFinalizer ↔ held = true) ∧ w.remote.contains identity = there := by
  obtain ⟨hseen, hthere⟩ := Prod.mk.inj h
  obtain ⟨t, ht, hpair⟩ := Option.map_eq_some_iff.1 hseen
  obtain ⟨object, hobject, hread⟩ := Option.bind_eq_some_iff.1 ht
  obtain ⟨hname, rfl⟩ := Prod.mk.inj hpair
  exact ⟨object, t, hobject, hread, hname, List.contains_iff_mem.symm, hthere⟩

/-- After the finalizer was added and the remote topic was created, both are there. -/
theorem finalizer_guards_remote_topic_created :
    let w := afterPass {} (afterPass {} (servedWorld ordersTopic.toJson 0))
    ∃ m, w.store.HoldsMetadata m ∧ m.recordedName = some (identityFor "us-east-1" "orders") ∧
      w.remote.contains (identityFor "us-east-1" "orders") = true ∧ m.HoldsFinalizer := by
  intro w
  -- The first pass only puts the finalizer, the second one creates the remote topic.
  have hattached : (afterPass {} (servedWorld ordersTopic.toJson 0)).disturbances = [] := by
    decide +kernel
  have hreaches : Reaches {} World.DeniesTruly ⟨servedWorld ordersTopic.toJson 0, none⟩ ⟨w, none⟩ :=
    (reaches_afterPass_of_undisturbed {} rfl).trans (reaches_afterPass_of_undisturbed {} hattached)
  obtain ⟨m, hm, hguards, -⟩ := finalizer_guards_remote_topic rfl storedIn_ordersTopic
    (by decide) hreaches
  have hglimpse : glimpse w (identityFor "us-east-1" "orders") =
      (some (some (identityFor "us-east-1" "orders"), true), true) := by decide +kernel
  obtain ⟨object, t, hobject, hread, hname, -, hthere⟩ := of_glimpse hglimpse
  obtain ⟨stored, hstored, hmetadata⟩ := id hm
  obtain rfl := Option.some.inj (hobject.symm.trans hstored)
  obtain rfl := hmetadata.metadata_eq hread
  exact ⟨_, hm, hname, hthere, hguards (fun _ _ h => h) _ hname hthere⟩

/-- A world in which the object is to be deleted, and the next deletion of a remote topic is answered that
there is no such topic. -/
def deniedDeletion (w : World) : World :=
  { w with
    store := w.store.requestDeletion ⟨0⟩
    disturbances := [{ operation := .deleteTopic, trouble := some .notFound }] }

theorem reaches_deniedDeletion (w : World) :
    Reaches options allowed ⟨w, none⟩ ⟨deniedDeletion w, none⟩ := by
  have hlegible : Instant.IsLegible ⟨0⟩ := ⟨by decide, by decide⟩
  exact .tail (.single (.requestDeletion hlegible)) (.outside rfl rfl)

/-- A deletion that is answered that there is no such topic takes the finalizer away, be it true or not:
the remote topic is left without it. -/
theorem finalizer_lost_if_deletion_denied :
    ordersTopic.StoredIn ordersTopic.toJson ∧ ordersTopic.externalName = none ∧
      ¬ ordersTopic.metadata.HoldsFinalizer ∧
      ∃ w object t, Reaches {} (fun _ _ => True) ⟨servedWorld ordersTopic.toJson 0, none⟩ ⟨w, none⟩ ∧
        w.store.object? = some object ∧ Topic.ofJson? object = some t ∧
        t.externalName = some (identityFor "us-east-1" "orders") ∧
        w.remote.contains (identityFor "us-east-1" "orders") = true ∧
        ¬ t.metadata.HoldsFinalizer := by
  have hpass (w : World) :
      Reaches {} (fun _ _ => True) ⟨w, none⟩ ⟨afterPass {} w, none⟩ :=
    reaches_afterPass (fun _ => True) (fun _ _ _ => ⟨trivial, trivial⟩) trivial
  have hreaches := (hpass (servedWorld ordersTopic.toJson 0)).trans ((hpass _).trans
    ((reaches_deniedDeletion _).trans (hpass _)))
  have hglimpse : glimpse (afterPass {} (deniedDeletion (afterPass {} (afterPass {}
      (servedWorld ordersTopic.toJson 0))))) (identityFor "us-east-1" "orders") =
      (some (some (identityFor "us-east-1" "orders"), false), true) := by decide +kernel
  obtain ⟨object, t, hobject, hread, hname, hheld, hthere⟩ := of_glimpse hglimpse
  have hfree : finalizerName ∉ ordersTopic.metadata.finalizerList := by decide
  exact ⟨storedIn_ordersTopic, by decide, hfree, _, object, t, hreaches, hobject, hread, hname,
    hthere, fun h => nomatch hheld.1 h⟩

end Controller

end TopicOperator
