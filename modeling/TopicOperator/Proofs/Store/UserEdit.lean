import TopicOperator.Proofs.Store.Patched

/-!
# Filled parameters over edited ones

The patch of filled parameters names everything that a pass has read or filled, so where a user has
stored other parameters in the meantime it does not only add to them.  What becomes of them is told here:
they are kept exactly if nothing was set in another way.
-/

namespace TopicOperator

/-- The patch that a pass sends for filled parameters puts these over the ones that are stored by then.
What is set in the stored ones is kept if and only if the filled ones agree with it. -/
theorem filled_parameters_over_edit {edited : Topic} {object : Json} (hstored : edited.StoredIn object)
    (hnamed : ∃ members, (object.get "spec").get "forProvider" = .object members) (p : Parameters)
    (snapshot : Snapshot) :
    ∃ after, Topic.ofJson? (Json.mergePatch object
        (StoreWrite.parameters (p.completedBy snapshot)).patch) = some after ∧
      after.parameters = (p.completedBy snapshot).onto edited.parameters ∧
      (edited.parameters.ExtendedBy after.parameters ↔
        (p.completedBy snapshot).AgreesWith edited.parameters) := by
  obtain ⟨members, hmembers⟩ := hnamed
  obtain ⟨base, hread, hbase⟩ := hstored.parametersPatch (p.completedBy snapshot)
  have hedited : base = edited.parameters := by
    rcases hbase with hsame | ⟨-, hunnamed⟩
    · exact hsame
    · exact absurd hmembers (hunnamed members)
  rw [hedited] at hread
  exact ⟨_, hread.ofJson?, rfl, Parameters.extendedBy_onto_iff⟩

/-- What the remote topic reports: a display name. -/
def namedSnapshot : Snapshot :=
  ⟨.ofList [("DisplayName", "Orders")], []⟩

/-- What a user has stored in the meantime: a policy. -/
def openTopic : Topic :=
  ordersTopic.withParameters { region := "us-east-1", policy := some "open" }

theorem storedIn_openTopic : openTopic.StoredIn openTopic.toJson where
  isObject := ⟨_, rfl⟩
  distinct := ⟨by decide, trivial, trivial, ⟨by decide, trivial, trivial, trivial⟩,
    ⟨by decide, ⟨by decide, trivial, trivial, trivial⟩, trivial⟩, trivial⟩
  read := rfl

/-- The policy is kept beside the display name that was filled in. -/
theorem filled_parameters_over_policy :
    openTopic.StoredIn openTopic.toJson ∧
      ∃ after, Topic.ofJson? (Json.mergePatch openTopic.toJson
          (StoreWrite.parameters (ordersTopic.parameters.completedBy namedSnapshot)).patch) =
            some after ∧
        after.parameters.policy = some "open" ∧ after.parameters.displayName = some "Orders" := by
  obtain ⟨after, hread, hafter, hkept⟩ := filled_parameters_over_edit storedIn_openTopic ⟨_, rfl⟩
    ordersTopic.parameters namedSnapshot
  have hagrees : (ordersTopic.parameters.completedBy namedSnapshot).AgreesWith
      openTopic.parameters := ⟨rfl, nofun, nofun, nofun, nofun, nofun, nofun, nofun⟩
  refine ⟨storedIn_openTopic, after, hread, (hkept.2 hagrees).policy "open" rfl, ?_⟩
  rw [hafter]
  rfl

/-- What a user has stored in the meantime: another display name. -/
def renamedTopic : Topic :=
  ordersTopic.withParameters { region := "us-east-1", displayName := some "Mine" }

theorem storedIn_renamedTopic : renamedTopic.StoredIn renamedTopic.toJson where
  isObject := ⟨_, rfl⟩
  distinct := ⟨by decide, trivial, trivial, ⟨by decide, trivial, trivial, trivial⟩,
    ⟨by decide, ⟨by decide, trivial, trivial, trivial⟩, trivial⟩, trivial⟩
  read := rfl

/-- The display name is replaced by the one that was filled in. -/
theorem filled_parameters_over_displayName :
    renamedTopic.StoredIn renamedTopic.toJson ∧
      ordersTopic.parameters.gainsFrom namedSnapshot = true ∧
      ¬ ∃ after, Topic.ofJson? (Json.mergePatch renamedTopic.toJson
          (StoreWrite.parameters (ordersTopic.parameters.completedBy namedSnapshot)).patch) =
            some after ∧
        renamedTopic.parameters.ExtendedBy after.parameters := by
  refine ⟨storedIn_renamedTopic, by decide, ?_⟩
  rintro ⟨after, hread, hkept⟩
  have hreplaced : (Topic.ofJson? (Json.mergePatch renamedTopic.toJson
      (StoreWrite.parameters (ordersTopic.parameters.completedBy namedSnapshot)).patch)).map
        (fun topic => topic.parameters.displayName) = some (some "Orders") := by
    decide +kernel
  rw [hread, Option.map_some, hkept.displayName "Mine" rfl] at hreplaced
  have hname : "Mine" = "Orders" := Option.some.inj (Option.some.inj hreplaced)
  exact absurd hname (by decide)

end TopicOperator
