import TopicOperator.Proofs.Tag.Collapse
import TopicOperator.Remote.Basic
import TopicOperator.Sync.Snapshot

/-!
# Revisions of a remote topic

Changing calls that set attributes or tags of a topic that is there: a revision always has a result,
which leaves the topic in place and every other topic as it is.  Revisions of one topic are carried
out one after the other; a failure that was announced for one of them costs that call only.
-/

namespace TopicOperator

namespace Mutation

/-- A changing call that sets an attribute or changes tags of the topic of an identity. -/
def Revises (identity : String) : Mutation → Prop
  | setAttribute i _ _ | addTags i _ | removeTags i _ => i = identity
  | create .. | delete .. => False

/-- The topic after a revision. -/
def revised : Mutation → RemoteTopic → RemoteTopic
  | setAttribute _ name value, topic => topic.setAttribute name value
  | addTags _ tags, topic => topic.addTags tags
  | removeTags _ keys, topic => topic.removeTags keys
  | create .., topic | delete .., topic => topic

variable {identity : String} {m : Mutation}

theorem Revises.target (h : m.Revises identity) (region : String) :
    m.target region = identity := by
  cases m with
  | setAttribute | addTags | removeTags => exact h
  | create | delete => exact absurd h not_false

theorem Revises.result? (h : m.Revises identity) (topic : RemoteTopic) :
    m.result? (some topic) = some (some (m.revised topic)) := by
  cases m with
  | setAttribute | addTags | removeTags => rfl
  | create | delete => exact absurd h not_false

end Mutation

/-- The topic after several revisions, one after the other. -/
def RemoteTopic.revisedBy (topic : RemoteTopic) (ms : List Mutation) : RemoteTopic :=
  ms.foldl (fun t m => m.revised t) topic

/-- What a pass reads of a remote topic. -/
def RemoteTopic.snapshot (identity : String) (topic : RemoteTopic) : Snapshot :=
  ⟨Remote.report identity topic, topic.tags⟩

/-- The values that the remote service computes hide no attribute that can be set. -/
theorem Attribute.observed_report (a : Attribute) (identity : String) (topic : RemoteTopic) :
    a.observed (Remote.report identity topic) = topic.attributes.get? a.name := by
  unfold Attribute.observed Remote.report
  rw [TextMap.get?_insertAll]
  cases a <;> rfl

theorem Attribute.observed_snapshot (a : Attribute) (identity : String) (topic : RemoteTopic) :
    a.observed (topic.snapshot identity).attributes = topic.attributes.get? a.name :=
  a.observed_report identity topic

namespace Remote

/-- The remote service with a call logged. -/
def logged (remote : Remote) (m : Mutation) : Remote :=
  { remote with calls := remote.calls ++ [m] }

/-- A call that a failure was announced for is logged and changes no topic. -/
theorem mutate_of_announced {remote : Remote} (h : remote.failAt = some remote.calls.length)
    (region : String) (m : Mutation) :
    remote.mutate region m =
      (.error (.transport m.operation.name (.injected remote.calls.length)),
        { remote.logged m with failAt := none }) := by
  unfold mutate
  rw [if_pos h]
  rfl

/-- Any other call is logged and carried out. -/
theorem mutate_of_not_announced {remote : Remote} (h : remote.failAt ≠ some remote.calls.length)
    (region : String) (m : Mutation) :
    remote.mutate region m =
      ((change region m remote.topics).1,
        { remote.logged m with topics := (change region m remote.topics).2 }) := by
  unfold mutate
  rw [if_neg h]
  rfl

/-- Where no failure is announced, every call is carried out. -/
theorem mutate_of_quiet {remote : Remote} (h : remote.failAt = none) (region : String)
    (m : Mutation) :
    remote.mutate region m =
      ((change region m remote.topics).1,
        { remote.logged m with topics := (change region m remote.topics).2 }) := by
  refine mutate_of_not_announced ?_ region m
  rw [h]
  exact nofun

/-- A failure was announced for a call, or it is carried out; it is logged in any case. -/
theorem mutate_cases (remote : Remote) (region : String) (m : Mutation) :
    remote.mutate region m =
        (.error (.transport m.operation.name (.injected remote.calls.length)),
          { remote.logged m with failAt := none }) ∨
      remote.mutate region m =
        ((change region m remote.topics).1,
          { remote.logged m with topics := (change region m remote.topics).2 }) := by
  by_cases h : remote.failAt = some remote.calls.length
  · exact .inl (mutate_of_announced h region m)
  · exact .inr (mutate_of_not_announced h region m)

/-- A revision of a topic that is there succeeds, and replaces this topic. -/
theorem change_revision {identity : String} {m : Mutation} (hm : m.Revises identity)
    {topics : TextMap RemoteTopic} {topic : RemoteTopic}
    (htopic : topics.get? identity = some topic) (region : String) :
    change region m topics = (.ok identity, topics.insert identity (m.revised topic)) := by
  simp only [change, hm.target region, htopic, hm.result?]
  rfl

/-- Creating a topic where there is none succeeds and adds it; where there is one, it stays. -/
theorem change_create (region name : String) (attributes : TextMap String) (tags : List Tag)
    (topics : TextMap RemoteTopic) :
    change region (.create name attributes tags) topics =
      (.ok (identityFor region name), topics.insert (identityFor region name)
        ((topics.get? (identityFor region name)).getD ⟨attributes, tags⟩)) := by
  simp only [change, Mutation.target]
  cases topics.get? (identityFor region name) <;> rfl

/-- Deleting a topic leaves no topic of its identity, whether there was one or not. -/
theorem change_delete (region identity : String) (topics : TextMap RemoteTopic) :
    change region (.delete identity) topics =
      (if (topics.get? identity).isSome then .ok identity else .error (.notFound identity),
        topics.erase identity) := by
  simp only [change, Mutation.target]
  cases hfound : topics.get? identity with
  | none => rw [TextMap.erase_of_get?_eq_none hfound]; rfl
  | some topic => rfl

/-- Creating a topic either succeeds, with the identity of the name, or leaves all topics as they
are. -/
theorem mutate_create (remote : Remote) (region name : String) (attributes : TextMap String)
    (tags : List Tag) :
    remote.mutate region (.create name attributes tags) =
        (.ok (identityFor region name),
          { remote.logged (.create name attributes tags) with
            topics := remote.topics.insert (identityFor region name)
              ((remote.topics.get? (identityFor region name)).getD ⟨attributes, tags⟩) }) ∨
      (∃ e, (remote.mutate region (.create name attributes tags)).1 = .error e) ∧
        (remote.mutate region (.create name attributes tags)).2.topics = remote.topics := by
  rcases remote.mutate_cases region (.create name attributes tags) with hannounced | hcarried
  · rw [hannounced]
    exact .inr ⟨⟨_, rfl⟩, rfl⟩
  · rw [hcarried, change_create]
    exact .inl rfl

section Mutate

variable {region identity key : String} {remote next : Remote} {m : Mutation} {cause : RemoteError}

/-- A changing call is logged in any case. -/
theorem calls_mutate (remote : Remote) (region : String) (m : Mutation) :
    (remote.mutate region m).2.calls = remote.calls ++ [m] := by
  rcases remote.mutate_cases region m with hannounced | hcarried
  · rw [hannounced]
    rfl
  · rw [hcarried]
    rfl

/-- A changing call that succeeds was carried out. -/
theorem topics_of_mutate_ok (h : remote.mutate region m = (.ok identity, next)) :
    next.topics = (change region m remote.topics).2 := by
  rcases remote.mutate_cases region m with hannounced | hcarried
  · rw [hannounced] at h
    cases h
  · rw [hcarried] at h
    obtain ⟨-, rfl⟩ := Prod.mk.inj h
    rfl

/-- What is answered with an error changes no topic. -/
theorem change_of_error {topics : TextMap RemoteTopic} (h : (change region m topics).1 = .error cause) :
    (change region m topics).2 = topics := by
  unfold change at h ⊢
  dsimp only at h ⊢
  split at h
  · cases h
  · rfl

/-- A changing call makes of the topic that it concerns what it is for, and leaves the others. -/
theorem get?_change (region : String) (m : Mutation) (topics : TextMap RemoteTopic) (key : String) :
    (change region m topics).2.get? key =
      if key = m.target region then (m.result? (topics.get? key)).getD (topics.get? key)
      else topics.get? key := by
  unfold change
  dsimp only
  split
  · rename_i result hresult
    cases result with
    | some topic =>
        refine (TextMap.get?_insert _ _ _ _).trans ?_
        split
        · next hkey => rw [hkey, hresult]; rfl
        · rfl
    | none =>
        refine (TextMap.get?_erase _ _ _).trans ?_
        split
        · next hkey => rw [hkey, hresult]; rfl
        · rfl
  · rename_i hresult
    split
    · next hkey => rw [hkey, hresult]; rfl
    · rfl

/-- A changing call that fails, announced or not, changes no topic. -/
theorem topics_of_mutate_error (h : remote.mutate region m = (.error cause, next)) :
    next.topics = remote.topics := by
  rcases remote.mutate_cases region m with hannounced | hcarried
  · rw [hannounced] at h
    obtain ⟨-, rfl⟩ := Prod.mk.inj h
    rfl
  · rw [hcarried] at h
    obtain ⟨hcause, rfl⟩ := Prod.mk.inj h
    exact change_of_error hcause

/-- A changing call is answered with the identity that it concerns. -/
theorem target_of_mutate {remote : Remote} {identity : String}
    (h : (remote.mutate region m).1 = .ok identity) : identity = m.target region := by
  rcases remote.mutate_cases region m with hannounced | hcarried
  · rw [hannounced] at h
    cases h
  · rw [hcarried] at h
    simp only [change] at h
    split at h
    · exact (Except.ok.inj h).symm
    · cases h

/-- A changing call leaves every topic as it is but the one that it concerns. -/
theorem get?_mutate_of_ne (remote : Remote) (h : key ≠ m.target region) :
    (remote.mutate region m).2.topics.get? key = remote.topics.get? key := by
  rcases remote.mutate_cases region m with hannounced | hcarried
  · rw [hannounced]
    rfl
  · rw [hcarried]
    exact (get?_change region m remote.topics key).trans (if_neg h)

end Mutate

end Remote

end TopicOperator
