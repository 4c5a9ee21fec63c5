import TopicOperator.Proofs.Store.Patched
import TopicOperator.Proofs.Topic.WrittenParts

/-!
# Parts that patches leave

What a stored object holds under the name of a part after the patch of this part was merged into it.
The patch of a status replaces the status, be the object before a topic or not: members of the old
status that the patch does not name are no fields of a status.  The patch of filled parameters only
adds to the written form of those that were filled, since filling unsets nothing and takes no tag away.
No other part changes.
-/

namespace TopicOperator

open Json Json.Draft

/-- After the patch of a status the stored object is read as if the status had been written anew. -/
theorem Status.read_patch (object : Json) (s : Status) :
    reader (.ofJson ((mergePatch object (StoreWrite.status s).patch).get "status")) =
      reader (.ofJson s.toJson) := by
  have hne : s.patchBody ≠ .null := object_ne_null _
  show reader (.ofJson ((mergePatch object (.object [("status", s.patchBody)])).get "status")) = _
  rw [get_mergePatch_single hne, if_pos rfl, read_patchBody]

/-- Whatever the stored object is, after the patch of a status it holds this status and nothing of an
old one: the status is read back as it is, exactly if it is legible and its times are whole seconds.
The other members are what they were. -/
theorem status_replaced (object : Json) (s : Status) :
    let after := mergePatch object (StoreWrite.status s).patch
    (Status.reader (.ofJson (after.get "status")) = .ok s ↔ s.IsLegible ∧ s.toSecond = s) ∧
      ∀ name, name ≠ "status" → after.get? name = object.get? name := by
  intro after
  constructor
  · rw [Status.read_patch]
    exact Status.read_toJson_self_iff
  · intro name hname
    exact get?_mergePatch_single (object_ne_null _ : s.patchBody ≠ .null) object hname

/-- A status whose time is the last second before the year zero. -/
def earlyStatus : Status where
  conditions := [{ Condition.available with
    lastTransition := some (.ofSeconds (Instant.yearZero - 1)) }]

/-- The time is a whole second, and it is written, but it cannot be read back. -/
theorem status_lost_before_yearZero :
    earlyStatus.toSecond = earlyStatus ∧
      Status.reader (.ofJson
        ((mergePatch ordersTopic.toJson (StoreWrite.status earlyStatus).patch).get "status")) ≠
          .ok earlyStatus := by
  refine ⟨rfl, fun h => ?_⟩
  rw [Status.read_patch] at h
  have htime := (Status.isLegible_of_read_toJson h).conditions _ List.mem_cons_self _ rfl
  exact absurd htime.1 (by decide)

/-- The patch of filled parameters turns the written form of the parameters that were filled into an
object that is read as the filled ones.  The other members of the specification and of the object are
what they were. -/
theorem filled_parameters_stored {object : Json} {p : Parameters}
    (hstored : (object.get "spec").get "forProvider" = p.toJson) (snapshot : Snapshot) :
    let after := mergePatch object (StoreWrite.parameters (p.completedBy snapshot)).patch
    Parameters.reader (.ofJson ((after.get "spec").get "forProvider")) =
        .ok (p.completedBy snapshot) ∧
      (∀ name, name ≠ "spec" → after.get? name = object.get? name) ∧
      ∀ name, name ≠ "forProvider" →
        (after.get "spec").get? name = (object.get "spec").get? name := by
  intro after
  let change := Json.object [("forProvider", (p.completedBy snapshot).toJson)]
  have hne : (p.completedBy snapshot).toJson ≠ .null := object_ne_null _
  have hchange : change ≠ .null := object_ne_null _
  have hspec : after.get "spec" = mergePatch (object.get "spec") change := by
    show (mergePatch object (.object [("spec", change)])).get "spec" = _
    rw [get_mergePatch_single hchange, if_pos rfl]
  refine ⟨?_, fun name hname => get?_mergePatch_single hchange object hname, fun name hname => ?_⟩
  · have hfills := ((RecordKind.read_object_iff p.nodup_toJson).1 p.read_toJson).1
    rw [hspec, get_mergePatch_single hne, if_pos rfl, hstored,
      Parameters.read_mergePatch p.distinct_toJson hfills,
      Parameters.onto_of_extendedBy (p.extendedBy_completedBy snapshot)]
  · rw [hspec]
    exact get?_mergePatch_single hne _ hname

/-- Parameters that declare a tag and leave the display name open. -/
def taggedParameters : Parameters where
  region := "us-east-1"
  tags := some (.ofList [("team", "core")])

/-- A stored object with parameters, a finalizer that is no text, and a status that is none. -/
def taggedObject : Json :=
  .object [("status", .text "unknown"), ("metadata", .object [("finalizers", .integer 1)]),
    ("spec", .object [("forProvider", taggedParameters.toJson)])]

/-- The display name is added, and the tag stays the only one, though another one is reported. -/
theorem filled_parameters_stored_tagged :
    (taggedObject.get "spec").get "forProvider" = taggedParameters.toJson ∧
      let snapshot : Snapshot := ⟨.ofList [("DisplayName", "Orders")], [⟨"stage", "live"⟩]⟩
      let after := mergePatch taggedObject
        (StoreWrite.parameters (taggedParameters.completedBy snapshot)).patch
      Parameters.reader (.ofJson ((after.get "spec").get "forProvider")) =
          .ok { taggedParameters with displayName := some "Orders" } ∧
        after.get? "status" = some (.text "unknown") := by
  refine ⟨rfl, ?_⟩
  intro snapshot after
  have hfilled : taggedParameters.completedBy snapshot =
      { taggedParameters with displayName := some "Orders" } := by decide
  obtain ⟨hread, hothers, -⟩ :=
    @filled_parameters_stored taggedObject taggedParameters rfl snapshot
  exact ⟨hread.trans (congrArg Except.ok hfilled), hothers "status" (by decide)⟩

end TopicOperator
