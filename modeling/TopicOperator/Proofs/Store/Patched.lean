import TopicOperator.Remote.Mutation
import TopicOperator.Proofs.Topic.Overlay
import TopicOperator.Proofs.Topic.ReadBack

/-!
# Stored objects after a patch

What each write of a pass makes of the stored object that its patch is merged into: the object still
holds a topic, and this topic differs from the one before in the part that was written.
-/

namespace TopicOperator

open Json Json.Draft Json.Draft.RecordKind

/-- The members of a specification that is read, and those of its parameters, fill some record: the one
that is read unless the parameters are not given by name. -/
theorem Spec.exists_fills {value : Json} (hdistinct : value.Distinct) {s : Spec}
    (h : Spec.reader (.ofJson value) = .ok s) :
    ∃ start base, Spec.shape.Fills value.members Spec.shape.blank start ∧
      Parameters.shape.Fills (value.get "forProvider").members Parameters.shape.blank base ∧
      (base = s.forProvider ∨ base = Parameters.shape.blank ∧
        ∀ members, value.get "forProvider" ≠ .object members) := by
  obtain ⟨start, hstart, horigin⟩ := exists_fills_members hdistinct ⟨s, h⟩
  have hnull (hget : value.get "forProvider" = .null) :
      Parameters.shape.Fills (value.get "forProvider").members Parameters.shape.blank
        Parameters.shape.blank := by
    rw [hget]
    exact .nil _
  rcases Spec.slot_forProvider.null_or_read hstart hdistinct.ofMembers.1 with hget | hread
  · refine ⟨start, Parameters.shape.blank, hstart, hnull hget, .inr ⟨rfl, ?_⟩⟩
    intro members heq
    cases hget.symm.trans heq
  · obtain ⟨base, hbase, hsame⟩ := exists_fills_members
      (Distinct.getD_find hdistinct.ofMembers.2 "forProvider") ⟨_, hread⟩
    refine ⟨start, base, hstart, hbase, ?_⟩
    rcases hsame with hsame | hblank
    · obtain rfl := Except.ok.inj (hsame.symm.trans hread)
      rcases horigin with horigin | ⟨-, hobject⟩
      · exact .inl (congrArg Spec.forProvider (Except.ok.inj (horigin.symm.trans h)))
      · have hget : value.get "forProvider" = .null := by
          cases value with
          | object members => exact absurd rfl (hobject members)
          | null | bool | number | text | list => rfl
        change Parameters.reader (.ofJson (value.get "forProvider")) = _ at hread
        rw [hget] at hread
        cases hread
    · exact .inr hblank

/-- A patch of parameters puts them over those of a specification.  Where these are not given by name,
they are replaced as a whole. -/
theorem Spec.read_parametersPatch {value : Json} (hdistinct : value.Distinct) {s : Spec}
    (h : Spec.reader (.ofJson value) = .ok s) (p : Parameters) :
    ∃ base, Spec.reader (.ofJson (mergePatch value (.object [("forProvider", p.toJson)]))) =
        .ok ⟨p.onto base⟩ ∧
      (base = s.forProvider ∨ base = Parameters.shape.blank ∧
        ∀ members, value.get "forProvider" ≠ .object members) := by
  have hinner : (value.get "forProvider").Distinct :=
    Distinct.getD_find hdistinct.ofMembers.2 "forProvider"
  obtain ⟨start, base, hstart, hbase, horigin⟩ := Spec.exists_fills hdistinct h
  refine ⟨base, ?_, horigin⟩
  have hne : p.toJson ≠ .null := object_ne_null _
  have hfills := Spec.slot_forProvider.fills_change hstart hne
    (Parameters.read_mergePatch hinner hbase p)
  refine (read_object_iff (nodup_names_changeMember hdistinct.ofMembers.1)).2 ⟨hfills, ?_⟩
  have hname : "forProvider" ∈ names (changeMember value.members "forProvider" p.toJson) := by
    rw [changeMember_of_ne_null hne]
    exact mem_names_put.2 (.inl rfl)
  simpa [Complete, Spec.shape, requiredField] using hname

/-- An object that holds a specification: no object in it names a member twice, and its part of that
name is read as the specification. -/
structure Spec.StoredIn (spec : Spec) (object : Json) : Prop where
  distinct : object.Distinct
  read : reader (.ofJson (object.get "spec")) = .ok spec

namespace Spec.StoredIn

variable {spec : Spec} {object : Json}

theorem distinct_change (h : spec.StoredIn object) {name : String} {change : Json}
    (hchange : change.Distinct) : (mergePatch object (.object [(name, change)])).Distinct :=
  distinct_mergePatch h.distinct ⟨by simp [names], hchange, True.intro⟩

/-- A patch of another part leaves the specification alone. -/
theorem patchElsewhere (h : spec.StoredIn object) {name : String} (hname : "spec" ≠ name)
    {change : Json} (hne : change ≠ .null) (hchange : change.Distinct) :
    spec.StoredIn (mergePatch object (.object [(name, change)])) := by
  refine ⟨h.distinct_change hchange, ?_⟩
  rw [get_mergePatch_single hne, if_neg hname]
  exact h.read

theorem parametersPatch (h : spec.StoredIn object) (p : Parameters) :
    ∃ base, (Spec.mk (p.onto base)).StoredIn (mergePatch object (StoreWrite.parametersPatch p)) ∧
      (base = spec.forProvider ∨ base = Parameters.shape.blank ∧
        ∀ members, (object.get "spec").get "forProvider" ≠ .object members) := by
  have hinner : (object.get "spec").Distinct := Distinct.getD_find h.distinct.ofMembers.2 "spec"
  obtain ⟨base, hread, horigin⟩ := Spec.read_parametersPatch hinner h.read p
  have hchange : (Json.object [("forProvider", p.toJson)]).Distinct :=
    ⟨by simp [names], p.distinct_toJson, True.intro⟩
  have hne : Json.object [("forProvider", p.toJson)] ≠ .null := object_ne_null _
  refine ⟨base, ⟨h.distinct_change hchange, ?_⟩, horigin⟩
  rw [StoreWrite.parametersPatch, get_mergePatch_single hne, if_pos rfl]
  exact hread

end Spec.StoredIn

namespace Metadata

/-- The change of metadata that sets one annotation. -/
def annotationChange (key value : String) : Json :=
  .object [("annotations", .object (textMembers [(key, value)]))]

theorem distinct_annotationChange (key value : String) : (annotationChange key value).Distinct :=
  ⟨by simp [names], ⟨by simp [names, textMembers], True.intro, True.intro⟩, True.intro⟩

/-- Metadata in which one annotation is set are read with this annotation. -/
theorem read_annotationChange {value : Json} (hdistinct : value.Distinct) {m : Metadata}
    (h : (shape 1).read (.ofJson value) = .ok m) (key text : String) :
    (shape 1).read (.ofJson (mergePatch value (annotationChange key text))) =
      .ok (m.annotate key text) := by
  obtain ⟨members, rfl⟩ := isObject_of_read rfl h
  have hfills := ((read_object_iff hdistinct.1).1 h).1
  have hold := (slot_annotations 1).read_getD_find rfl hfills hdistinct.1
  exact (slot_annotations 1).read_change hdistinct.1 h (object_ne_null _)
    (readMap_mergePatch hold [(key, text)])

end Metadata

namespace Topic

/-- An object that holds a topic: no object in it names a member twice, and it is read as the
topic. -/
structure StoredIn (topic : Topic) (object : Json) : Prop where
  isObject : ∃ members, object = .object members
  distinct : object.Distinct
  read : reader (.ofJson object) = .ok topic

namespace StoredIn

variable {topic : Topic} {object : Json}

theorem ofJson? (h : topic.StoredIn object) : Topic.ofJson? object = some topic := by
  rw [Topic.ofJson?, h.read]
  rfl

theorem fills (h : topic.StoredIn object) :
    (shape 0).Fills object.members (shape 0).blank topic ∧ (shape 0).Complete object.members := by
  obtain ⟨members, rfl⟩ := h.isObject
  exact (read_object_iff h.distinct.1).1 h.read

/-- A patch of one part that can be read changes that part of the topic. -/
theorem patch {α : Type} {name : String} {reader : Reader α} {get : Topic → α}
    {set : α → Topic → Topic} (slot : (shape 0).Slot name reader get set) (h : topic.StoredIn object)
    {change : Json} (hne : change ≠ .null) (hchange : change.Distinct) {a : α}
    (hread : reader (.ofJson (mergePatch (object.get name) change)) = .ok a) :
    (set a topic).StoredIn (mergePatch object (.object [(name, change)])) := by
  obtain ⟨members, rfl⟩ := h.isObject
  have hchanges : Json.Distinct (.object [(name, change)]) :=
    ⟨by simp [names], hchange, True.intro⟩
  have hdistinct := distinct_mergePatch h.distinct hchanges
  exact ⟨⟨_, rfl⟩, hdistinct, slot.read_change h.distinct.1 h.read hne hread⟩

/-- The part of a topic that a required member holds. -/
theorem read_part {α : Type} {name : String} {reader : Reader α} {get : Topic → α}
    {set : α → Topic → Topic} (slot : (shape 0).Slot name reader get set) (h : topic.StoredIn object)
    (hname : name ∈ names object.members) : reader (.ofJson (object.get name)) = .ok (get topic) := by
  obtain ⟨value, hfind⟩ := Option.isSome_iff_exists.1 (find_isSome_iff.2 hname)
  rw [Json.get, hfind]
  exact slot.read_of_find_some h.fills.1 h.distinct.ofMembers.1 hfind

theorem read_metadata (h : topic.StoredIn object) :
    (Metadata.shape 1).read (.ofJson (object.get "metadata")) = .ok topic.metadata := by
  refine h.read_part (slot_metadata 0) ?_
  have hcomplete := h.fills.2
  simp only [Complete, shape, requiredField, optionalField, List.forall_mem_cons] at hcomplete
  exact hcomplete.1 trivial

theorem read_spec (h : topic.StoredIn object) :
    Spec.reader (.ofJson (object.get "spec")) = .ok topic.spec := by
  refine h.read_part (slot_spec 0) ?_
  have hcomplete := h.fills.2
  simp only [Complete, shape, requiredField, optionalField, List.forall_mem_cons] at hcomplete
  exact hcomplete.2.1 trivial

theorem read_status (h : topic.StoredIn object) :
    readOptional Status.reader (.ofJson (object.get "status")) = .ok topic.status :=
  (slot_status 0).read_getD_find rfl h.fills.1 h.distinct.ofMembers.1

/-- The counters of a stored status can be written back. -/
theorem isLegible_atProvider (h : topic.StoredIn object) {s : Status} (hs : topic.status = some s) :
    s.atProvider.IsLegible := by
  rcases readOptional_iff.1 h.read_status with ⟨-, hnone⟩ | ⟨-, found, hread, hfound⟩
  · cases hnone.symm.trans hs
  · obtain rfl := Option.some.inj (hfound.trans hs)
    exact Status.isLegible_atProvider_of_read hread

theorem distinct_get (h : topic.StoredIn object) (name : String) : (object.get name).Distinct :=
  Distinct.getD_find h.distinct.ofMembers.2 name

/-- The patch of a legible status sets the status, with its times cut to the second. -/
theorem statusPatch (h : topic.StoredIn object) {s : Status} (hs : s.IsLegible) :
    StoredIn { topic with status := some s.toSecond } (mergePatch object (StoreWrite.statusPatch s)) := by
  refine h.patch (slot_status 0) (object_ne_null _) s.distinct_patchBody ?_
  show (Status.reader (.ofJson (mergePatch (object.get "status") s.patchBody))).map some = _
  rw [Status.read_patchBody, Status.read_toJson hs]
  rfl

/-- The patch of an identity sets the annotation that records it. -/
theorem externalNamePatch (h : topic.StoredIn object) (identity : String) :
    (topic.setExternalName identity).StoredIn
      (mergePatch object (StoreWrite.externalNamePatch identity)) :=
  h.patch (slot_metadata 0) (object_ne_null _) (Metadata.distinct_annotationChange _ _)
    (Metadata.read_annotationChange (h.distinct_get "metadata") h.read_metadata externalNameKey
      identity)

/-- The patch of parameters changes the specification, and nothing else of the topic. -/
theorem parametersPatch (h : topic.StoredIn object) (p : Parameters) :
    ∃ base, (topic.withParameters (p.onto base)).StoredIn
        (mergePatch object (StoreWrite.parametersPatch p)) ∧
      (base = topic.parameters ∨ base = Parameters.shape.blank ∧
        ∀ members, (object.get "spec").get "forProvider" ≠ .object members) := by
  let change := Json.object [("forProvider", p.toJson)]
  have hchange : change.Distinct := ⟨by simp [names], p.distinct_toJson, True.intro⟩
  obtain ⟨base, hread, horigin⟩ :=
    Spec.read_parametersPatch (h.distinct_get "spec") h.read_spec p
  exact ⟨base, h.patch (slot_spec 0) (object_ne_null _) hchange hread, horigin⟩

/-- An object that holds a topic holds its specification. -/
theorem toSpec (h : topic.StoredIn object) : topic.spec.StoredIn object :=
  ⟨h.distinct, h.read_spec⟩

end StoredIn

end Topic

/-- A topic that declares its region only. -/
def ordersTopic : Topic where
  metadata := { name := some "orders", namespaceName := some "messaging" }
  spec := ⟨{ region := "us-east-1" }⟩

theorem storedIn_ordersTopic : ordersTopic.StoredIn ordersTopic.toJson where
  isObject := ⟨_, rfl⟩
  distinct := ⟨by decide, trivial, trivial, ⟨by decide, trivial, trivial, trivial⟩,
    ⟨by decide, ⟨by decide, trivial, trivial⟩, trivial⟩, trivial⟩
  read := rfl

/-- A topic that records an identity. -/
def recordedTopic : Topic :=
  ordersTopic.setExternalName (identityFor "us-east-1" "orders")

theorem storedIn_recordedTopic : recordedTopic.StoredIn recordedTopic.toJson where
  isObject := ⟨_, rfl⟩
  distinct := ⟨by decide, trivial, trivial,
    ⟨by decide, ⟨by decide, trivial, trivial⟩, trivial, trivial, trivial⟩,
    ⟨by decide, ⟨by decide, trivial, trivial⟩, trivial⟩, trivial⟩
  read := rfl

end TopicOperator
