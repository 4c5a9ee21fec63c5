import TopicOperator.Proofs.Pass.Faultless

/-!
# What the outcome of a pass tells

A faultless pass tells exactly what it did: that nothing changed if it made no changing call, that a
topic was created if its one call created it, and otherwise how many attributes it set and how many
tags it removed and added.  Whether there is anything to do is found out by another test than what
there is to do, and both come after the parameters were completed; so this rests on the agreement of
the two, which is `Parameters.isUpToDate_iff_planFor_eq_nil`.
-/

namespace TopicOperator

/-- An outcome tells the calls that a pass over a topic made. -/
structure Outcome.Tells (region : String) (topic : Topic) (calls : List Mutation)
    (outcome : Outcome) : Prop where
  /-- Nothing changed exactly when no call was made. -/
  unchanged : outcome = .unchanged ↔ calls = []
  /-- A topic was created exactly when this was the one call, with all that is declared. -/
  created : (∃ identity, outcome = .created identity) ↔
    calls = [.create topic.anyName topic.parameters.creationAttributes
      (Tag.ofMap topic.parameters.tagMap)]
  /-- There is no other creation. -/
  creates : ∀ name attributes tags, .create name attributes tags ∈ calls →
    outcome = .created (identityFor region name)
  /-- Otherwise the calls are an update, in the order of attributes and keys, and are counted. -/
  updated : outcome ≠ .unchanged → (∀ identity, outcome ≠ .created identity) →
    ∃ identity changes keys tags,
      topic.externalName = some identity ∧ calls = updateCalls identity changes keys tags ∧
        outcome = .updated changes.length tags.length keys.length ∧
        0 < changes.length + tags.length + keys.length ∧
        (changes.Pairwise fun first second => first.1.position < second.1.position) ∧
        keys.Pairwise (· < ·) ∧ (tags.map Tag.key).Pairwise (· < ·)

theorem AttributeDiff.toList_pairwise (diff : AttributeDiff) :
    diff.toList.Pairwise fun first second => first.1.position < second.1.position := by
  have hall : Attribute.all.Pairwise fun first second => first.position < second.position := by
    decide
  refine hall.filterMap _ ?_
  intro a b hlt change hchange other hother
  obtain ⟨_, -, rfl⟩ := Option.map_eq_some_iff.1 hchange
  obtain ⟨_, -, rfl⟩ := Option.map_eq_some_iff.1 hother
  exact hlt

namespace TagDiff

variable (diff : TagDiff)

theorem map_key_tagsToAdd : diff.tagsToAdd.map Tag.key = diff.toAdd.keys := by
  simp [tagsToAdd, Tag.ofMap, TextMap.keys, Tag.ofEntry]

theorem length_tagsToAdd : diff.tagsToAdd.length = diff.toAdd.size := by
  simp [tagsToAdd, Tag.ofMap, TextMap.size]

end TagDiff

namespace Outcome.Tells

variable {topic : Topic} {identity : String}

theorem creation (region : String) (topic : Topic) :
    Outcome.Tells region topic [topic.creation] (.created (identityFor region topic.anyName)) where
  unchanged := ⟨nofun, nofun⟩
  created := ⟨fun _ => rfl, fun _ => ⟨_, rfl⟩⟩
  creates name attributes tags hmem := by
    obtain ⟨rfl, -, -⟩ := Mutation.create.inj (List.mem_singleton.1 hmem)
    rfl
  updated _ hcreated := absurd rfl (hcreated _)

theorem nothing (region : String) (topic : Topic) :
    Outcome.Tells region topic [] .unchanged where
  unchanged := ⟨fun _ => rfl, fun _ => rfl⟩
  created := ⟨nofun, nofun⟩
  creates := nofun
  updated hchanged := absurd rfl hchanged

theorem update (region : String) (hname : topic.externalName = some identity)
    {changes : List (Attribute × String)} {keys : List String} {tags : List Tag}
    (hsome : 0 < changes.length + tags.length + keys.length)
    (hchanges : changes.Pairwise fun first second => first.1.position < second.1.position)
    (hkeys : keys.Pairwise (· < ·)) (htags : (tags.map Tag.key).Pairwise (· < ·)) :
    Outcome.Tells region topic (updateCalls identity changes keys tags)
      (.updated changes.length tags.length keys.length) where
  unchanged := ⟨nofun, fun hnil => absurd (updateCalls_eq_nil_iff.1 hnil) (Nat.ne_of_gt hsome)⟩
  created := by
    refine ⟨nofun, fun hcalls => ?_⟩
    have hmem : topic.creation ∈ updateCalls identity changes keys tags := by
      rw [hcalls]
      exact List.mem_singleton_self _
    exact absurd (revises_of_mem_updateCalls hmem) not_false
  creates _ _ _ hmem := absurd (revises_of_mem_updateCalls hmem) not_false
  updated _ _ :=
    ⟨identity, changes, keys, tags, hname, rfl, rfl, hsome, hchanges, hkeys, htags⟩

end Outcome.Tells

namespace Lifecycle

open World

variable {w : World} {topic : Topic} {identity : String} {found : RemoteTopic}

/-- The outcome of a pass that brings a remote topic into line. -/
theorem tells_alignment (region : String) (hname : topic.externalName = some identity)
    (found : RemoteTopic) :
    Outcome.Tells region topic (topic.parameters.callsFor identity found)
      (topic.parameters.outcomeFor identity found) := by
  by_cases hplan : topic.parameters.planFor identity found = []
  · rw [Parameters.callsFor_of_inLine hplan, Parameters.outcomeFor_of_inLine hplan]
    exact .nothing region topic
  · have hcalls : topic.parameters.callsFor identity found = _ :=
      (topic.parameters.verdictOn identity found).map_mutation_plan identity
    -- A plan that is not empty makes a call, so something is counted.
    have hsome : topic.parameters.callsFor identity found ≠ [] := fun hnil =>
      hplan (List.map_eq_nil_iff.1 hnil)
    rw [hcalls, Ne, updateCalls_eq_nil_iff] at hsome
    have htags := (topic.parameters.verdictOn identity found).tags.toAdd.keys_pairwise
    rw [← TagDiff.map_key_tagsToAdd] at htags
    rw [hcalls, Parameters.outcomeFor_of_behind hplan, ← TagDiff.length_tagsToAdd,
      ← TextMap.length_keys]
    exact .update region hname (Nat.pos_of_ne_zero hsome) (AttributeDiff.toList_pairwise _)
      (TextMap.keys_pairwise _) htags

/-- The outcome of a faultless pass tells the calls that it made: none, one creation, or an update
whose parts it counts. -/
theorem outcome_tells_calls (hw : w.Faultless) (topic : Topic) :
    ∃ outcome calls, (w.perform topic reconcile).result = .ok outcome ∧
      (w.perform topic reconcile).world.remote.calls = w.remote.calls ++ calls ∧
      outcome.Tells w.region topic calls := by
  cases hfound : w.remote.recordedBy topic with
  | none =>
      obtain ⟨events, h⟩ := perform_reconcile_created hw hfound
      rw [h]
      exact ⟨_, [topic.creation], rfl, rfl, .creation w.region topic⟩
  | some recorded =>
      obtain ⟨identity, found⟩ := recorded
      obtain ⟨hname, -⟩ := Remote.recordedBy_eq_some_iff.1 hfound
      obtain ⟨events, h⟩ := perform_reconcile_seen hw hfound
      rw [h]
      exact ⟨_, topic.parameters.callsFor identity found, rfl, rfl,
        tells_alignment w.region hname found⟩

/-- The drifted topic, to which all three kinds of calls are made: its display name and its flag are
set, and the tag of its one key is replaced. -/
theorem outcome_tells_calls_drifted :
    driftedWorld.Faultless ∧
      (driftedWorld.perform driftedTopic reconcile).result = .ok (.updated 2 1 1) ∧
      ∃ outcome calls, (driftedWorld.perform driftedTopic reconcile).result = .ok outcome ∧
        (driftedWorld.perform driftedTopic reconcile).world.remote.calls =
          driftedWorld.remote.calls ++ calls ∧
        outcome.Tells driftedWorld.region driftedTopic calls :=
  ⟨driftedWorld_faultless, by decide, outcome_tells_calls driftedWorld_faultless driftedTopic⟩

end Lifecycle

end TopicOperator
