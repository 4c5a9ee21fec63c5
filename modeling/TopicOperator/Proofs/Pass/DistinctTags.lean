import TopicOperator.Proofs.Pass.Lasting
import TopicOperator.Proofs.Pass.Operations
import TopicOperator.Proofs.Remote.ClientCall

/-!
# Tags of remote topics as maps

The remote service keeps the tags of a topic as a list.  Whatever this list is, adding tags overwrites
the map of it and leaves every key that was named once, and removing keys thins out the map.  Neither
repeats a key that was not repeated before.  A key can come in repeated only when a topic is created or
when its tags drift.  What a pass creates has the tags of a map, so if clients do not repeat keys either,
no remote topic ever carries a key twice.
-/

namespace TopicOperator

open RemoteTopic

/-! ### One list of tags -/

/-- Tags after others were added to them. -/
structure Overwritten (before added after : List Tag) : Prop where
  map : Tag.collapse after = (Tag.collapse before).insertAll (added.map Tag.entry)
  once : ∀ tag ∈ added, (after.map Tag.key).count tag.key = 1
  distinct : KeysDistinct before → KeysDistinct after

/-- Tags after keys were removed from them. -/
structure ThinnedOut (before : List Tag) (keys : List String) (after : List Tag) : Prop where
  map : Tag.collapse after = (Tag.collapse before).filter fun key _ => !keys.contains key
  distinct : KeysDistinct before → KeysDistinct after

namespace RemoteTopic

theorem overwritten_addTags (topic : RemoteTopic) (added : List Tag) :
    Overwritten topic.tags added (topic.addTags added).tags where
  map := collapse_addTags topic added
  once tag htag := by rw [count_addTags, if_pos (List.mem_map_of_mem htag)]
  distinct h := h.addTags added

theorem thinnedOut_removeTags (topic : RemoteTopic) (keys : List String) :
    ThinnedOut topic.tags keys (topic.removeTags keys).tags where
  map := collapse_removeTags topic keys
  distinct h := h.removeTags keys

/-- The tags of a map have distinct keys. -/
theorem keysDistinct_ofMap (map : TextMap String) : KeysDistinct (Tag.ofMap map) := by
  have hkeys : (Tag.ofMap map).map Tag.key = map.keys := List.map_map
  rw [KeysDistinct, hkeys]
  exact map.keys_nodup

end RemoteTopic

/-! ### Changing calls, clients and passes -/

/-- A changing call that repeats no key where it creates a topic. -/
def Mutation.NamesKeysOnce : Mutation → Prop
  | create _ _ tags => KeysDistinct tags
  | setAttribute .. | addTags .. | removeTags .. | delete .. => True

/-- A call of a client that repeats no key where it creates a topic or sets the tags from outside. -/
def ClientCall.NamesKeysOnce : ClientCall → Prop
  | mutate _ m => m.NamesKeysOnce
  | driftTags _ tags => KeysDistinct tags
  | fetchAttributes _ | fetchTags _ | contains _ | calls | driftAttribute _ _ _ | clearCalls
  | failOnCall _ => True

/-- A query that repeats no key where it creates a topic. -/
def Query.NamesKeysOnce : Query → Prop
  | mutate m => m.NamesKeysOnce
  | now | fetchAttributes _ | fetchTags _ | write _ _ | log _ | connect _ | patchFinalizers _ _ _ => True

theorem Mutation.Revises.namesKeysOnce {identity : String} {m : Mutation} (h : m.Revises identity) :
    m.NamesKeysOnce := by
  cases m with
  | setAttribute | addTags | removeTags => trivial
  | create | delete => exact absurd h not_false

/-- A call that names keys once leaves a topic with distinct keys, if it had them. -/
theorem Mutation.keysDistinct_result {m : Mutation} (hm : m.NamesKeysOnce)
    {before : Option RemoteTopic} (hbefore : ∀ t ∈ before, KeysDistinct t.tags) {after : RemoteTopic}
    (h : m.result? before = some (some after)) : KeysDistinct after.tags := by
  cases before with
  | none =>
      cases m with
      | create name attributes tags =>
          obtain rfl := Option.some.inj (Option.some.inj h)
          exact hm
      | setAttribute | addTags | removeTags | delete => cases h
  | some topic =>
      have htopic := hbefore topic rfl
      cases m with
      | delete => cases h
      | create | setAttribute =>
          obtain rfl := Option.some.inj (Option.some.inj h)
          exact htopic
      | addTags identity added =>
          obtain rfl := Option.some.inj (Option.some.inj h)
          exact htopic.addTags added
      | removeTags identity keys =>
          obtain rfl := Option.some.inj (Option.some.inj h)
          exact htopic.removeTags keys

namespace Remote

/-- No topic carries a key twice. -/
def TagsDistinct (remote : Remote) : Prop :=
  ∀ identity topic, remote.topics.get? identity = some topic → KeysDistinct topic.tags

namespace TagsDistinct

variable {remote : Remote}

theorem change {topics : TextMap RemoteTopic}
    (h : ∀ identity topic, topics.get? identity = some topic → KeysDistinct topic.tags)
    (region : String) {m : Mutation} (hm : m.NamesKeysOnce) (identity : String) (topic : RemoteTopic)
    (hfound : (Remote.change region m topics).2.get? identity = some topic) :
    KeysDistinct topic.tags := by
  rw [get?_change] at hfound
  split at hfound
  · cases hresult : m.result? (topics.get? identity) with
    | none =>
        rw [hresult] at hfound
        exact h identity topic hfound
    | some result =>
        rw [hresult] at hfound
        obtain rfl : result = some topic := hfound
        exact m.keysDistinct_result hm (fun t ht => h identity t ht) hresult
  · exact h identity topic hfound

theorem mutate (h : remote.TagsDistinct) (region : String) {m : Mutation} (hm : m.NamesKeysOnce) :
    (remote.mutate region m).2.TagsDistinct := by
  rcases remote.mutate_cases region m with hannounced | hcarried
  · rw [hannounced]
    exact h
  · rw [hcarried]
    exact change h region hm

theorem drift (h : remote.TagsDistinct) (identity : String) {f : RemoteTopic → RemoteTopic}
    (hf : ∀ topic, KeysDistinct topic.tags → KeysDistinct (f topic).tags) :
    (remote.drift identity f).2.TagsDistinct := by
  intro key topic hfound
  rw [get?_drift] at hfound
  split at hfound
  · obtain ⟨before, hbefore, rfl⟩ := Option.map_eq_some_iff.1 hfound
    exact hf before (h key before hbefore)
  · exact h key topic hfound

/-- One call of a client. -/
theorem serve (h : remote.TagsDistinct) {c : ClientCall} (hc : c.NamesKeysOnce) :
    (remote.serve c).2.TagsDistinct := by
  cases c with
  | fetchAttributes | fetchTags | contains | calls | clearCalls | failOnCall => exact h
  | mutate region m => exact h.mutate region hc
  | driftAttribute identity name value => exact h.drift identity fun _ htopic => htopic
  | driftTags identity tags => exact h.drift identity fun _ _ => hc

/-- One query of a pass. -/
theorem answer {w : World} (h : w.remote.TagsDistinct) {q : Query} (hq : q.NamesKeysOnce) :
    (w.answer q).2.remote.TagsDistinct := by
  by_cases hmutate : ∃ m, q = .mutate m
  · obtain ⟨m, rfl⟩ := hmutate
    obtain ⟨-, ⟨hremote, -⟩ | ⟨hremote, -⟩⟩ := w.answer_mutate m
    · rw [hremote]
      exact h.mutate w.region hq
    · rw [hremote]
      exact h
  · rw [World.remote_answer fun m hm => hmutate ⟨m, hm⟩]
    exact h

end TagsDistinct

end Remote

namespace Lifecycle

open Work

section Tidy

variable {α : Type} {kept : World → Prop}
  (hkept : ∀ (w : World) (q : Query), q.NamesKeysOnce → kept w → kept (w.answer q).2)

include hkept

theorem answerKeeps_of_namesKeysOnce {q : Query} (hq : q.NamesKeysOnce) :
    AnswerKeeps (fun w _ => kept w) q :=
  fun w _ h => hkept w q hq h

theorem answerKeeps_written (written : Topic) (change : StoreWrite) :
    AnswerKeeps (fun w _ => kept w) (.write written change) :=
  answerKeeps_of_namesKeysOnce hkept trivial

theorem overlooks_of_namesKeysOnce : Overlooks fun w _ => kept w where
  log _ := answerKeeps_of_namesKeysOnce hkept trivial
  fetchAttributes _ := answerKeeps_of_namesKeysOnce hkept trivial
  fetchTags _ := answerKeeps_of_namesKeysOnce hkept trivial

theorem lasts_of_namesKeysOnce : Lasts fun w _ => kept w where
  log _ := answerKeeps_of_namesKeysOnce hkept trivial
  now := answerKeeps_of_namesKeysOnce hkept trivial
  writeStatus written _ := answerKeeps_written hkept written _
  setStatus _ _ _ h := h

theorem fillParameters_preserves (snapshot : Snapshot) :
    Preserves (fun w _ => kept w) (fillParameters snapshot) := by
  have hlasts := lasts_of_namesKeysOnce hkept
  refine Keeps.get.bind fun topic => ?_
  dsimp only
  split
  · refine Keeps.bind (Meets.modify fun _ _ h => h) fun _ => ?_
    refine (Keeps.log hlasts.log _ _ _).bind fun _ => ?_
    exact (Keeps.write (answerKeeps_written hkept · _) fun _ _ _ h => h).bind fun _ => Keeps.pure true
  · exact Keeps.pure false

/-- What a pass creates has the tags of a map. -/
theorem create_preserves : Preserves (fun w _ => kept w) create := by
  refine Keeps.get.bind fun topic => ?_
  have hcreate : AnswerKeeps (fun w _ => kept w)
      (.mutate (.create topic.anyName topic.parameters.creationAttributes
        (topic.parameters.creationTags.map Tag.ofEntry))) :=
    answerKeeps_of_namesKeysOnce hkept (keysDistinct_ofMap topic.parameters.tagMap)
  refine (Keeps.mutate (fun _ _ _ _ h => h) hcreate).bind fun answer => ?_
  refine Keeps.bind (Keeps.orElse answer fun _ _ _ h => h) fun identity => ?_
  refine (Keeps.write (answerKeeps_written hkept · _) fun _ _ _ h => h).bind fun _ => ?_
  refine Keeps.bind (Meets.modify fun _ _ h => h) fun _ => ?_
  exact (Keeps.log (lasts_of_namesKeysOnce hkept).log _ _ _).bind fun _ => Keeps.pure identity

theorem delete_preserves : Preserves (fun w _ => kept w) delete := by
  have hlasts := lasts_of_namesKeysOnce hkept
  refine Keeps.get.bind fun topic => ?_
  cases topic.externalName with
  | none => exact Keeps.log hlasts.log _ _ _
  | some identity =>
      have hdelete : AnswerKeeps (fun w _ => kept w) (.mutate (.delete identity)) :=
        answerKeeps_of_namesKeysOnce hkept trivial
      refine (Keeps.mutate (fun _ _ _ _ h => h) hdelete).bind fun answer => ?_
      cases answer with
      | ok _ => exact Keeps.log hlasts.log _ _ _
      | error cause =>
          cases cause with
          | notFound => exact Keeps.log hlasts.log _ _ _
          | transport => exact Meets.throw _ fun _ _ h => h

theorem cleanup_preserves : Preserves (fun w _ => kept w) cleanup := by
  have hlasts := lasts_of_namesKeysOnce hkept
  refine (hlasts.nextStatus [.deleting] none).bind fun status => ?_
  refine (hlasts.persistStatus (fun _ _ _ h => h) status).bind fun _ => ?_
  refine (delete_preserves hkept).attempt.bind fun outcome => ?_
  cases outcome with
  | ok _ => exact Keeps.pure _
  | error e => exact (hlasts.recordFailure e).bind fun _ => Meets.throw e fun _ _ h => h

/-- What every query without repeated keys leaves is left by every operation. -/
theorem preserves_of_offers {work : Work α} (hwork : Offers work) :
    Preserves (fun w _ => kept w) work := by
  have hlasts := lasts_of_namesKeysOnce hkept
  have hlook := overlooks_of_namesKeysOnce hkept
  have hrevise (identity : String) (m : Mutation) (hm : m.Revises identity) :
      AnswerKeeps (fun w _ => kept w) (.mutate m) :=
    answerKeeps_of_namesKeysOnce hkept hm.namesKeysOnce
  cases hwork with
  | reconcile =>
      exact hlasts.reconcile hlook (fun _ _ _ _ h => h) (fillParameters_preserves hkept)
        (create_preserves hkept) hrevise fun e => hlasts.recordFailure e
  | cleanup => exact cleanup_preserves hkept
  | observe => exact hlook.observe (fun _ _ _ _ h => h) (fillParameters_preserves hkept)
  | create => exact create_preserves hkept
  | update identity verdict =>
      exact Keeps.update (fun _ _ _ _ h => h) hlasts.log (hrevise identity) verdict
  | delete => exact delete_preserves hkept

end Tidy

end Lifecycle

/-- The remote service without topics, after calls of clients that repeat no key where they create a
topic or set its tags from outside, and after operations of the lifecycle.  Passes may also take
turns. -/
inductive TidyRun : Remote → Prop
  | empty {remote : Remote} (h : remote.topics = .empty) : TidyRun remote
  | call {remote : Remote} (c : ClientCall) (hc : c.NamesKeysOnce) (h : TidyRun remote) :
      TidyRun (remote.serve c).2
  /-- An operation on a topic, in surroundings of its own. -/
  | operation {w : World} (t : Topic) {α : Type} {work : Work α} (hwork : Lifecycle.Offers work)
      (h : TidyRun w.remote) : TidyRun (w.perform t work).world.remote
  /-- One query of an operation that is under way. -/
  | turn {w : World} (q : Query) (hq : q.NamesKeysOnce) (h : TidyRun w.remote) :
      TidyRun (w.answer q).2.remote

namespace Remote

theorem tagsDistinct_of_tidyRun {remote : Remote} (h : TidyRun remote) : remote.TagsDistinct := by
  induction h with
  | empty hempty =>
      intro identity topic hfound
      rw [hempty] at hfound
      cases hfound
  | call c hc _ ih => exact ih.serve hc
  | operation t hwork _ ih =>
      have hpreserves : Work.Preserves (fun w _ => w.remote.TagsDistinct) _ :=
        Lifecycle.preserves_of_offers (fun _ _ hq h => h.answer hq) hwork
      exact hpreserves.after ih
  | turn q hq _ ih => exact ih.answer hq

/-- The tags of a topic behave as a map where they are changed, unless a failure was announced for the
call. -/
structure TagsAsMap (remote : Remote) : Prop where
  added : ∀ region identity topic tags, remote.topics.get? identity = some topic →
    remote.failAt ≠ some remote.calls.length →
      ∃ after, remote.mutate region (.addTags identity tags) =
          (.ok identity, { remote.logged (.addTags identity tags) with
            topics := remote.topics.insert identity { topic with tags := after } }) ∧
        Overwritten topic.tags tags after
  removed : ∀ region identity topic keys, remote.topics.get? identity = some topic →
    remote.failAt ≠ some remote.calls.length →
      ∃ after, remote.mutate region (.removeTags identity keys) =
          (.ok identity, { remote.logged (.removeTags identity keys) with
            topics := remote.topics.insert identity { topic with tags := after } }) ∧
        ThinnedOut topic.tags keys after

theorem tagsAsMap (remote : Remote) : remote.TagsAsMap where
  added region identity topic tags hfound hcarried := by
    refine ⟨_, ?_, topic.overwritten_addTags tags⟩
    have hrevises : (Mutation.addTags identity tags).Revises identity := rfl
    rw [mutate_of_not_announced hcarried, change_revision hrevises hfound]
    rfl
  removed region identity topic keys hfound hcarried := by
    refine ⟨_, ?_, topic.thinnedOut_removeTags keys⟩
    have hrevises : (Mutation.removeTags identity keys).Revises identity := rfl
    rw [mutate_of_not_announced hcarried, change_revision hrevises hfound]
    rfl

/-- Whatever the tags of remote topics are, changing them changes a map.  Where neither creations nor
drifts repeat a key, no remote topic ever carries a key twice. -/
theorem tags_behave_as_maps :
    (∀ remote : Remote, remote.TagsAsMap) ∧ ∀ remote, TidyRun remote → remote.TagsDistinct :=
  ⟨tagsAsMap, fun _ => tagsDistinct_of_tidyRun⟩

/-- A topic that carries one key twice gets this key twice more.  Another one is created and drifts, and
a pass brings it into line. -/
theorem tags_behave_as_maps_repeated :
    let place := "us-east-1"
    let identity := identityFor place "orders"
    let repeated : Remote := {
      topics := .ofList [(identity, ⟨.empty, [⟨"team", "a"⟩, ⟨"stage", "b"⟩, ⟨"team", "c"⟩]⟩)] }
    let created := (({} : Remote).serve
      (.mutate place (.create "orders" .empty [⟨"team", "a"⟩, ⟨"stage", "b"⟩]))).2
    let drifted := (created.serve (.driftTags identity [⟨"owner", "e"⟩, ⟨"team", "f"⟩])).2
    let surroundings : World := { region := place, clock := ⟨0⟩, remote := drifted }
    let parameters : Parameters := { region := place, tags := some (.ofList [("team", "g")]) }
    let topic := (Topic.new "orders" parameters).setExternalName identity
    let remote := (surroundings.perform topic Lifecycle.reconcile).world.remote
    (∃ after, (repeated.mutate place (.addTags identity [⟨"team", "d"⟩, ⟨"team", "e"⟩])).2.topics.get?
          identity = some ⟨.empty, after⟩ ∧
        Overwritten [⟨"team", "a"⟩, ⟨"stage", "b"⟩, ⟨"team", "c"⟩] [⟨"team", "d"⟩, ⟨"team", "e"⟩] after) ∧
      TidyRun remote ∧ remote.fetchTags identity = .ok [⟨"team", "g"⟩] ∧ remote.TagsDistinct := by
  intro place identity repeated created drifted surroundings parameters topic remote
  obtain ⟨htags, hdistinct⟩ := tags_behave_as_maps
  obtain ⟨after, hadded, hoverwritten⟩ :=
    (htags repeated).added place identity _ [⟨"team", "d"⟩, ⟨"team", "e"⟩] rfl nofun
  have hcreation : KeysDistinct [⟨"team", "a"⟩, ⟨"stage", "b"⟩] := by decide
  have hdrift : KeysDistinct [⟨"owner", "e"⟩, ⟨"team", "f"⟩] := by decide
  have hcreated : TidyRun created := .call (.mutate place _) hcreation (.empty rfl)
  have hdrifted : TidyRun drifted := .call (.driftTags identity _) hdrift hcreated
  have hrun : TidyRun remote := .operation (w := surroundings) topic .reconcile hdrifted
  refine ⟨⟨after, ?_, hoverwritten⟩, hrun, by decide +kernel, hdistinct remote hrun⟩
  rw [hadded, TextMap.get?_insert, if_pos rfl]

end Remote

end TopicOperator
