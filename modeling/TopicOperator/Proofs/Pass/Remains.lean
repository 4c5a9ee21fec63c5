import TopicOperator.Proofs.Pass.StoredTopic
import TopicOperator.Proofs.Topic.Identity

/-!
# What a deleted topic leaves behind

A topic that is going away deletes the remote topic whose identity it records, and no other.  A remote
topic is created before its identity is recorded, so one whose recording failed is left behind, unless a
later pass has created it again and recorded it.
-/

namespace TopicOperator

open World Work Lifecycle

namespace Remote

variable {remote : Remote} {region identity : String}

/-- Revising a topic neither adds nor removes one. -/
theorem contains_mutate_revision {m : Mutation} (hm : m.Revises identity) (key : String) :
    (remote.mutate region m).2.contains key = remote.contains key := by
  rcases remote.mutate_cases region m with hannounced | hcarried
  · rw [hannounced]
    rfl
  · rw [hcarried]
    show ((change region m remote.topics).2.get? key).isSome = (remote.topics.get? key).isSome
    cases hfound : remote.topics.get? identity with
    | some topic =>
        rw [change_revision hm hfound, TextMap.get?_insert]
        split
        · next hkey => rw [hkey, hfound]; rfl
        · rfl
    | none =>
        have hnone : m.result? none = none := by
          cases m with
          | setAttribute | addTags | removeTags => rfl
          | create | delete => exact absurd hm not_false
        simp only [change, hm.target region, hfound, hnone]

/-- Deleting a topic fails without a change, or leaves no topic of the identity.  If the remote service
answers that there is no such topic, there is none. -/
theorem mutate_delete (remote : Remote) (region identity : String) :
    (∃ e, (remote.mutate region (.delete identity)).1 = .error e ∧
        (e.isNotFound = true → remote.contains identity = false)) ∧
          (remote.mutate region (.delete identity)).2.topics = remote.topics ∨
      (remote.mutate region (.delete identity)).1 = .ok identity ∧
        (remote.mutate region (.delete identity)).2.topics = remote.topics.erase identity := by
  rcases remote.mutate_cases region (.delete identity) with hannounced | hcarried
  · rw [hannounced]
    exact .inl ⟨⟨_, rfl, nofun⟩, rfl⟩
  · rw [hcarried, change_delete]
    cases hfound : remote.topics.get? identity with
    | none =>
        refine .inl ⟨⟨_, rfl, fun _ => ?_⟩, TextMap.erase_of_get?_eq_none hfound⟩
        show (remote.topics.get? identity).isSome = false
        rw [hfound]
        rfl
    | some topic => exact .inr ⟨rfl, rfl⟩

end Remote

/-- The remote service has one topic at most.  It has it exactly if the topic records its identity or
that was lost. -/
structure Traced (place given : String) (lost : Prop) (w : World) (topic : Topic) : Prop where
  region : w.region = place
  name : topic.anyName = given
  alone : ∀ other, other ≠ identityFor place given → w.remote.contains other = false
  recorded : topic.externalName = none ∨ topic.externalName = some (identityFor place given)
  there : w.remote.contains (identityFor place given) = true ↔ topic.externalName ≠ none ∨ lost

namespace Traced

variable {place given : String} {lost : Prop} {w w' : World} {topic : Topic}

/-- Only the region and which remote topics there are matter of the world. -/
theorem of_contains (h : Traced place given lost w topic) (hregion : w'.region = w.region)
    (hremote : ∀ key, w'.remote.contains key = w.remote.contains key) :
    Traced place given lost w' topic where
  region := hregion.trans h.region
  name := h.name
  alone other hother := (hremote other).trans (h.alone other hother)
  recorded := h.recorded
  there := hremote _ ▸ h.there

theorem congr (h : Traced place given lost w topic) {lost' : Prop} (hiff : lost ↔ lost') :
    Traced place given lost' w topic :=
  propext hiff ▸ h

theorem overlooks : Overlooks (Traced place given lost) where
  log _ := fun _ _ h => h.of_contains rfl fun _ => rfl
  fetchAttributes identity := fun w _ h => by
    obtain ⟨_, _, _, hworld⟩ := w.answer_fetchAttributes identity
    rw [hworld]
    exact h.of_contains rfl fun _ => rfl
  fetchTags identity := fun w _ h => by
    obtain ⟨_, _, _, hworld⟩ := w.answer_fetchTags identity
    rw [hworld]
    exact h.of_contains rfl fun _ => rfl

theorem answerKeeps_write (written : Topic) (change : StoreWrite) :
    AnswerKeeps (Traced place given lost) (.write written change) :=
  fun _ _ h => h.of_contains rfl fun _ => rfl

theorem lasts : Lasts (Traced place given lost) where
  log _ := fun _ _ h => h.of_contains rfl fun _ => rfl
  now := fun _ _ h => h.of_contains rfl fun _ => rfl
  writeStatus written _ := answerKeeps_write written _
  setStatus _ _ _ h := ⟨h.region, h.name, h.alone, h.recorded, h.there⟩

/-- An error of another kind loses nothing. -/
theorem of_other_error (e : PassError) (he : ¬ e.LosesIdentity) (w : World) (topic : Topic)
    (h : Traced place given lost w topic) : Traced place given (lost ∨ e.LosesIdentity) w topic :=
  h.congr (by simp [he])

theorem fillParameters (snapshot : Snapshot) :
    Keeps (Traced place given lost) (fun e => Traced place given (lost ∨ e.LosesIdentity))
      (fillParameters snapshot) := by
  refine Keeps.get.bind fun topic => ?_
  dsimp only
  split
  · refine Keeps.bind (Meets.modify fun _ _ h => ⟨h.region, h.name, h.alone, h.recorded, h.there⟩)
      fun _ => (Keeps.log lasts.log _ _ _).bind fun _ => ?_
    have herror (cause : StoreError) : ¬ (PassError.persistParameters cause).LosesIdentity :=
      not_false
    refine Keeps.bind (Keeps.write (answerKeeps_write · _) fun cause => ?_) fun _ => Keeps.pure true
    exact of_other_error _ (herror cause)
  · exact Keeps.pure false

theorem answerKeeps_revision {identity : String} {m : Mutation} (hm : m.Revises identity) :
    AnswerKeeps (Traced place given lost) (.mutate m) := by
  intro w topic h
  obtain ⟨hregion, ⟨hremote, -⟩ | ⟨hremote, -⟩⟩ := w.answer_mutate m
  · refine h.of_contains hregion fun key => ?_
    rw [hremote, Remote.contains_mutate_revision hm]
  · exact h.of_contains hregion fun key => by rw [hremote]

/-- A remote topic that was created is there, whether its identity is recorded or not. -/
theorem created (h : Traced place given lost w topic) (created : RemoteTopic)
    (hregion : w'.region = w.region)
    (hremote : w'.remote.topics = w.remote.topics.insert (identityFor place given) created) :
    Traced place given True w' topic where
  region := hregion.trans h.region
  name := h.name
  alone other hother := by
    show (w'.remote.topics.get? other).isSome = false
    rw [hremote, TextMap.get?_insert, if_neg hother]
    exact h.alone other hother
  recorded := h.recorded
  there := by
    refine iff_of_true ?_ (.inr trivial)
    show (w'.remote.topics.get? _).isSome = true
    rw [hremote, TextMap.get?_insert, if_pos rfl]
    rfl

theorem mutate_create (attributes : TextMap String) (tags : List Tag) :
    Meets (Traced place given lost) (Work.mutate (.create given attributes tags))
      (fun answer w topic => match answer with
        | .ok identity => Traced place given True w topic ∧ identity = identityFor place given
        | .error _ => Traced place given lost w topic)
      fun e => Traced place given (lost ∨ e.LosesIdentity) := by
  refine Meets.mutate (fun w topic h answer hanswer => ?_) fun w topic h interruption hnone => ?_
  · obtain ⟨hregion, ⟨hremote, hanswered⟩ | ⟨hremote, hrefused⟩⟩ :=
      w.answer_mutate (.create given attributes tags)
    · obtain rfl := Except.ok.inj (hanswered.symm.trans hanswer)
      obtain rfl := h.region
      rcases w.remote.mutate_create w.region given attributes tags with
        hcreated | ⟨⟨e, he⟩, hsame⟩
      · rw [hcreated] at hremote ⊢
        exact ⟨h.created _ hregion (by rw [hremote]), rfl⟩
      · rw [he]
        refine h.of_contains hregion fun key => ?_
        rw [hremote, Remote.contains, hsame, Remote.contains]
    · obtain ⟨e, rfl, -⟩ := hrefused answer hanswer
      exact h.of_contains hregion fun key => by rw [hremote]
  · obtain ⟨hregion, ⟨-, hanswered⟩ | ⟨hremote, -⟩⟩ := w.answer_mutate (.create given attributes tags)
    · cases hanswered.symm.trans hnone
    · intro e he
      exact of_other_error e he _ _ (h.of_contains hregion fun key => by rw [hremote])

/-- An identity that is recorded after its topic was created is not lost. -/
theorem setExternalName (h : Traced place given True w topic) :
    Traced place given lost w (topic.setExternalName (identityFor place given)) := by
  have hname := topic.externalName_setExternalName place
  rw [h.name] at hname
  refine ⟨h.region, h.name, h.alone, .inr hname, ?_⟩
  refine iff_of_true (h.there.2 (.inr trivial)) (.inl ?_)
  rw [hname]
  exact Option.some_ne_none _

/-- The identity of a topic that was created is recorded in the topic if it could be written, and lost
otherwise. -/
theorem recordIdentity {α : Type} {next : Work α}
    (hnext : Keeps (Traced place given lost)
      (fun e => Traced place given (lost ∨ e.LosesIdentity)) next) :
    Meets (Traced place given True) (do
        Work.write (.externalName (identityFor place given))
          (.recordExternalName (identityFor place given))
        modify fun topic => topic.setExternalName (identityFor place given)
        next)
      (fun _ => Traced place given lost) fun e => Traced place given (lost ∨ e.LosesIdentity) := by
  have hwrite : Keeps (Traced place given True)
      (fun e => Traced place given (lost ∨ e.LosesIdentity))
      (Work.write (.externalName (identityFor place given))
        (.recordExternalName (identityFor place given))) :=
    Keeps.write (answerKeeps_write · _) fun cause w t h =>
      h.congr (iff_of_true trivial (.inr trivial))
  refine Meets.bind hwrite fun _ => Meets.bind (Meets.modify fun w t h => ?_) fun _ => hnext
  exact setExternalName h

/-- A topic that was created is lost exactly if its identity could not be recorded. -/
theorem create : Keeps (Traced place given lost)
    (fun e => Traced place given (lost ∨ e.LosesIdentity)) create := by
  have hget : Meets (Traced place given lost) (MonadState.get : Work Topic)
      (fun topic w t => Traced place given lost w t ∧ topic.anyName = given)
      fun e => Traced place given (lost ∨ e.LosesIdentity) := Meets.get fun _ _ h => ⟨h, h.name⟩
  refine hget.bind fun topic => Meets.of_and fun hname => ?_
  subst hname
  refine Meets.bind (mutate_create _ _) fun answer => ?_
  cases answer with
  | error cause =>
      have herror : ¬ (PassError.createTopic topic.anyName cause).LosesIdentity := not_false
      exact Meets.throw _ (of_other_error _ herror)
  | ok identity =>
      refine Meets.of_and fun hidentity => ?_
      subst hidentity
      -- From here on the remote topic counts as lost, until its identity is recorded.
      exact recordIdentity ((Keeps.log lasts.log _ _ _).bind fun _ => Keeps.pure _)

/-- A pass loses a remote topic exactly if it fails to record the identity. -/
theorem reconcile : Keeps (Traced place given lost)
    (fun e => Traced place given (lost ∨ e.LosesIdentity)) reconcile :=
  lasts.reconcile overlooks of_other_error fillParameters create
    (fun _ _ hm => answerKeeps_revision hm) fun e => lasts.recordFailure e

/-- Where the one remote topic is gone there is none. -/
theorem topics_eq_empty (h : Traced place given lost w topic)
    (hgone : w.remote.contains (identityFor place given) = false) : w.remote.topics = .empty := by
  refine TextMap.eq_empty_iff.2 fun key => ?_
  rw [← Option.isNone_iff_eq_none, ← Option.isSome_eq_false_iff]
  by_cases hkey : key = identityFor place given
  · rw [hkey]
    exact hgone
  · exact h.alone key hkey

theorem topics_eq_empty_iff (h : Traced place given lost w topic) :
    w.remote.topics = .empty ↔ topic.externalName = none ∧ ¬ lost := by
  have hthere := not_congr h.there
  rw [not_or, not_not, Bool.not_eq_true] at hthere
  rw [← hthere]
  refine ⟨fun hempty => ?_, h.topics_eq_empty⟩
  rw [Remote.contains, hempty]
  rfl

end Traced

/-- A topic that is going away, with the identity that it records.  The remote service is not kept from
telling whether it has a topic. -/
structure Departing (place given : String) (lost : Prop) (known : Option String) (w : World)
    (topic : Topic) : Prop extends Traced place given lost w topic where
  named : topic.externalName = known
  honest : ¬ w.Denies .deleteTopic

namespace Departing

variable {place given : String} {lost : Prop} {known : Option String}

theorem lasts : Lasts (Departing place given lost known) where
  log event := fun w topic h => ⟨Traced.lasts.log event w topic h.toTraced, h.named, h.honest⟩
  now := fun w topic h => ⟨Traced.lasts.now w topic h.toTraced, h.named, h.honest⟩
  writeStatus written status := fun w topic h =>
    ⟨Traced.lasts.writeStatus written status w topic h.toTraced, h.named, h.honest⟩
  setStatus w topic status h :=
    ⟨Traced.lasts.setStatus w topic status h.toTraced, h.named, h.honest⟩

/-- The remote topic whose identity is recorded is gone if the remote service says so. -/
theorem mutate_delete :
    Meets (Departing place given lost known) (Work.mutate (.delete (identityFor place given)))
      (fun answer w _ => (∀ e, answer = .error e → e.isNotFound = true) →
        w.remote.topics = .empty)
      fun _ _ _ => True := by
  refine Meets.mutate (fun w topic h answer hanswer hgone => ?_) fun _ _ _ _ _ _ _ => trivial
  obtain ⟨-, ⟨hremote, hanswered⟩ | ⟨-, hrefused⟩⟩ :=
    w.answer_mutate (.delete (identityFor place given))
  · obtain rfl := Except.ok.inj (hanswered.symm.trans hanswer)
    rw [hremote]
    rcases w.remote.mutate_delete w.region (identityFor place given) with
      ⟨⟨e, he, habsent⟩, hsame⟩ | ⟨-, herased⟩
    · rw [hsame]
      exact h.topics_eq_empty (habsent (hgone e he))
    · rw [herased, TextMap.eq_empty_iff]
      intro key
      rw [TextMap.get?_erase]
      split
      · rfl
      · next hkey =>
          rw [← Option.isNone_iff_eq_none, ← Option.isSome_eq_false_iff]
          exact h.alone key hkey
  · obtain ⟨e, rfl, hdenies⟩ := hrefused answer hanswer
    exact absurd (hdenies (hgone e rfl)) h.honest

theorem delete : Meets (Departing place given lost known) delete
    (fun _ w _ => w.remote.topics = .empty ↔ known ≠ none ∨ ¬ lost) fun _ _ _ => True := by
  have hget : Meets (Departing place given lost known) (MonadState.get : Work Topic)
      (fun topic w t => Departing place given lost known w t ∧ topic.externalName = known ∧
        (known = none ∨ known = some (identityFor place given)))
      fun _ _ _ => True := Meets.get fun _ _ h => ⟨h, h.named, h.named ▸ h.recorded⟩
  refine hget.bind fun topic => Meets.of_and fun ⟨hname, hrecorded⟩ => ?_
  rw [hname]
  rcases hrecorded with rfl | rfl
  -- Without an identity no call is made, so a remote topic that was lost stays.
  · refine (Keeps.log lasts.log _ _ _).weaken (fun _ _ h => h) (fun _ w t h => ?_) fun _ _ _ h => h
    rw [h.topics_eq_empty_iff, h.named]
    simp
  · refine mutate_delete.bind fun answer => ?_
    cases answer with
    | ok value => exact Meets.ask fun w topic h => iff_of_true (h nofun) (.inl nofun)
    | error cause =>
        cases cause with
        | transport => exact Meets.throw _ fun _ _ _ => trivial
        | notFound =>
            refine Meets.ask fun w topic h => iff_of_true (h fun e he => ?_) (.inl nofun)
            rw [← Except.error.inj he]
            rfl

/-- Where a topic is reported as deleted, its remote topic is left behind exactly if the identity was
lost. -/
theorem cleanup : Meets (Departing place given lost known) cleanup
    (fun _ w _ => w.remote.topics = .empty ↔ known ≠ none ∨ ¬ lost) fun _ _ _ => True := by
  refine Meets.bind (lasts.nextStatus [.deleting] none) fun status => ?_
  refine Meets.bind (lasts.persistStatus (fun _ _ _ _ => trivial) status) fun _ => ?_
  refine Meets.bind delete.attempt fun outcome => ?_
  cases outcome with
  | ok value => exact Meets.pure _ fun _ _ h => h
  | error e =>
      have hrecord : Meets (fun _ _ => True) (recordFailure e) (fun _ _ _ => True)
          fun _ _ _ => True := Meets.always (fun _ _ _ => trivial) fun _ _ _ => trivial
      exact hrecord.bind fun _ => Meets.throw e fun _ _ _ => trivial

end Departing

/-- A pause in which anything may happen but to the remote topics and the region. -/
structure World.RemotePause (w w' : World) : Prop where
  topics : w'.remote.topics = w.remote.topics
  region : w'.region = w.region

theorem Traced.pause {place given : String} {lost : Prop} {w w' : World} {topic : Topic}
    (h : Traced place given lost w topic) (hpause : w.RemotePause w') :
    Traced place given lost w' topic :=
  h.of_contains hpause.region fun key => by rw [Remote.contains, hpause.topics, Remote.contains]

/-- Whether some pass failed to record the identity of a remote topic that it had created. -/
def IdentityLost (results : List (Except PassError Outcome)) : Prop :=
  ∃ identity cause, .error (.recordExternalName identity cause) ∈ results

theorem identityLost_append_ok (results : List (Except PassError Outcome)) (outcome : Outcome) :
    IdentityLost (results ++ [.ok outcome]) ↔ IdentityLost results := by
  simp [IdentityLost]

theorem identityLost_append_error (results : List (Except PassError Outcome)) (e : PassError) :
    IdentityLost (results ++ [.error e]) ↔ IdentityLost results ∨ e.LosesIdentity := by
  have hlast : e.LosesIdentity ↔ ∃ identity cause, PassError.recordExternalName identity cause = e := by
    cases e <;> simp [PassError.LosesIdentity]
  simp [IdentityLost, hlast, exists_or]

/-- A new topic is worked on in any number of passes, whatever fails in them, and then reported as
deleted.  There is no remote topic afterwards exactly if the topic recorded an identity when it went
away, or no pass failed to record one. -/
theorem deleted_leaves_nothing_iff {w₀ w w' : World} {t₀ t : Topic}
    {results : List (Except PassError Outcome)} (hnew : t₀.externalName = none)
    (hempty : w₀.remote.topics = .empty)
    (hrun : Run World.RemotePause (· = reconcile) w₀ t₀ results w t) (hpause : w.RemotePause w')
    (hhonest : ¬ w'.Denies .deleteTopic)
    (hdeleted : (w'.perform t cleanup).result = .ok .deleted) :
    (w'.perform t cleanup).world.remote.topics = .empty ↔
      t.externalName ≠ none ∨ ¬ IdentityLost results := by
  have htraced : Traced w₀.region t₀.anyName (IdentityLost results) w t := by
    refine hrun.holds (fun results => Traced w₀.region t₀.anyName (IdentityLost results))
      (fun results => Traced w₀.region t₀.anyName (IdentityLost results)) ?_ ?_ ?_
    -- At the start there is no remote topic, no identity, and nothing to have lost.
    · have hnone (key : String) : w₀.remote.contains key = false := by
        rw [Remote.contains, hempty]
        rfl
      exact ⟨rfl, rfl, fun other _ => hnone other, .inl hnew, by simp [hnone, hnew, IdentityLost]⟩
    · exact fun _ _ _ _ h hpause => h.pause hpause
    · rintro results _ rfl
      refine Traced.reconcile.weaken (fun _ _ h => h) ?_ ?_
      · exact fun outcome _ _ h => h.congr (identityLost_append_ok results outcome).symm
      · exact fun e _ _ h => h.congr (identityLost_append_error results e).symm
  have hend := Departing.cleanup w' t ⟨htraced.pause hpause, rfl, hhonest⟩
  rw [Ran.Ends, hdeleted] at hend
  exact hend

/-- The first pass fails to record the identity and the second one records it, so nothing is left. -/
theorem deleted_leaves_nothing_recorded :
    ∃ results w t,
      Run World.RemotePause (· = reconcile) (servedWorld ordersTopic.toJson 1) ordersTopic results w t ∧
        results.map Except.isOk = [false, true] ∧ (w.perform t cleanup).result = .ok .deleted ∧
        (w.perform t cleanup).world.remote.topics = .empty := by
  have hran :
      let first := (servedWorld ordersTopic.toJson 1).perform ordersTopic reconcile
      let second := first.world.perform first.topic reconcile
      ([first.result, second.result].map Except.isOk,
        (second.world.perform second.topic cleanup).result, second.topic.externalName,
        second.world.disturbances) =
          ([false, true], .ok .deleted, some (identityFor "us-east-1" "orders"), []) := by
    decide +kernel
  dsimp only at hran
  have hfirst : Run World.RemotePause (· = reconcile) (servedWorld ordersTopic.toJson 1) ordersTopic
      _ _ _ := .step .start ⟨rfl, rfl⟩ rfl
  have hnew : ordersTopic.externalName = none := by decide
  generalize (servedWorld ordersTopic.toJson 1).perform ordersTopic reconcile = first at *
  have hrun := hfirst.step ⟨rfl, rfl⟩ rfl
  generalize first.world.perform first.topic reconcile = second at *
  obtain ⟨hresults, hran⟩ := Prod.mk.inj hran
  obtain ⟨hdeleted, hran⟩ := Prod.mk.inj hran
  obtain ⟨hname, hcalm⟩ := Prod.mk.inj hran
  have hhonest : ¬ second.world.Denies .deleteTopic := by
    rintro ⟨d, hd, -⟩
    rw [hcalm] at hd
    cases hd
  refine ⟨_, _, _, hrun, hresults, hdeleted, ?_⟩
  refine (deleted_leaves_nothing_iff hnew rfl hrun ⟨rfl, rfl⟩ hhonest hdeleted).2 (.inl ?_)
  rw [hname]
  exact Option.some_ne_none _

/-- A new topic, stored at a faithful server and without a remote topic, is worked on in passes and then
reported as deleted, and a remote topic is left. -/
structure LeftBehind (w₀ w : World) (t₀ t : Topic) : Prop where
  new : t₀.externalName = none
  stored : ∃ object, w₀.store.Holds object ∧ t₀.StoredIn object
  empty : w₀.remote.topics = .empty
  run : ∃ results before, Run World.RemotePause (· = reconcile) w₀ t₀ results before t ∧
    before.RemotePause w
  deleted : (w.perform t cleanup).result = .ok .deleted
  left : (w.perform t cleanup).world.remote.topics ≠ .empty

theorem leftBehind_ordersTopic {refusals : Nat} {w before : World} {t : Topic}
    {results : List (Except PassError Outcome)}
    (hrun : Run World.RemotePause (· = reconcile) (servedWorld ordersTopic.toJson refusals)
      ordersTopic results before t)
    (hpause : before.RemotePause w) (hdeleted : (w.perform t cleanup).result = .ok .deleted)
    (hleft : (w.perform t cleanup).world.remote.contains (identityFor "us-east-1" "orders") = true) :
    LeftBehind (servedWorld ordersTopic.toJson refusals) w ordersTopic t where
  new := by decide
  stored := ⟨_, (pause_servedWorld _ refusals).holds rfl, storedIn_ordersTopic⟩
  empty := rfl
  run := ⟨results, before, hrun, hpause⟩
  deleted := hdeleted
  left := fun hempty => by
    rw [Remote.contains, hempty] at hleft
    cases hleft

/-- A remote topic is left behind if the identity could not be recorded, and even a recorded one if the
remote service denies that it has the topic. -/
theorem deleted_leaves_lost_or_denied :
    (∃ w t, LeftBehind (servedWorld ordersTopic.toJson 1) w ordersTopic t ∧
        ¬ w.Denies .deleteTopic) ∧
      ∃ w t, LeftBehind (servedWorld ordersTopic.toJson 0) w ordersTopic t ∧
        t.externalName ≠ none := by
  constructor
  · have hran :
        let first := (servedWorld ordersTopic.toJson 1).perform ordersTopic reconcile
        let last := first.world.perform first.topic cleanup
        (last.result, last.world.remote.contains (identityFor "us-east-1" "orders"),
          first.world.disturbances) = (.ok .deleted, true, []) := by
      decide +kernel
    dsimp only at hran
    have hrun : Run World.RemotePause (· = reconcile) (servedWorld ordersTopic.toJson 1) ordersTopic
        _ _ _ := .step .start ⟨rfl, rfl⟩ rfl
    generalize (servedWorld ordersTopic.toJson 1).perform ordersTopic reconcile = first at *
    obtain ⟨hdeleted, hran⟩ := Prod.mk.inj hran
    obtain ⟨hleft, hcalm⟩ := Prod.mk.inj hran
    refine ⟨_, _, leftBehind_ordersTopic hrun ⟨rfl, rfl⟩ hdeleted hleft, ?_⟩
    rintro ⟨d, hd, -⟩
    rw [hcalm] at hd
    cases hd
  · have hran :
        let first := (servedWorld ordersTopic.toJson 0).perform ordersTopic reconcile
        let denying : World := { first.world with
          disturbances := [{ operation := .deleteTopic, trouble := some .notFound }] }
        let last := denying.perform first.topic cleanup
        (last.result, last.world.remote.contains (identityFor "us-east-1" "orders"),
          first.topic.externalName) =
            (.ok .deleted, true, some (identityFor "us-east-1" "orders")) := by
      decide +kernel
    dsimp only at hran
    have hrun : Run World.RemotePause (· = reconcile) (servedWorld ordersTopic.toJson 0) ordersTopic
        _ _ _ := .step .start ⟨rfl, rfl⟩ rfl
    generalize (servedWorld ordersTopic.toJson 0).perform ordersTopic reconcile = first at *
    obtain ⟨hdeleted, hran⟩ := Prod.mk.inj hran
    obtain ⟨hleft, hname⟩ := Prod.mk.inj hran
    have hpause : first.world.RemotePause { first.world with
        disturbances := [{ operation := .deleteTopic, trouble := some .notFound }] } := ⟨rfl, rfl⟩
    refine ⟨_, _, leftBehind_ordersTopic hrun hpause hdeleted hleft, ?_⟩
    rw [hname]
    exact Option.some_ne_none _

end TopicOperator
