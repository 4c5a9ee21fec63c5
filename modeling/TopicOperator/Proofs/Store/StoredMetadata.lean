import TopicOperator.Controller.Pass
import TopicOperator.Proofs.Store.Faithful

/-!
# Metadata of the stored object

What a write or a patch of finalizers makes of the metadata of the stored object, at any server, be it
faithful or not.  The rest of the object need not even be readable: an object whose status cannot be
read still has its finalizers and the identity of its remote topic.
-/

namespace TopicOperator

open Json Json.Draft Json.Draft.RecordKind

namespace Json

namespace Pointer

theorem pieces_ne_nil (text : List Char) : pieces text ≠ [] := by
  cases text with
  | nil => nofun
  | cons c rest =>
      rw [pieces]
      split
      · nofun
      · split <;> nofun

/-- The first piece ends at the first slash. -/
theorem pieces_append {name : List Char} (h : '/' ∉ name) (rest : List Char) :
    pieces (name ++ '/' :: rest) = name :: pieces rest := by
  induction name with
  | nil =>
      obtain ⟨piece, others, hpieces⟩ := List.exists_cons_of_ne_nil (pieces_ne_nil rest)
      simp [pieces, hpieces]
  | cons c name ih =>
      obtain ⟨hfirst, hothers⟩ := List.ne_and_not_mem_of_not_mem_cons h
      rw [List.cons_append, pieces, ih hothers]
      exact if_neg (Ne.symm hfirst)

theorem pieces_of_not_mem {name : List Char} (h : '/' ∉ name) : pieces name = [name] := by
  induction name with
  | nil => rfl
  | cons c name ih =>
      obtain ⟨hfirst, hothers⟩ := List.ne_and_not_mem_of_not_mem_cons h
      rw [pieces, ih hothers]
      exact if_neg (Ne.symm hfirst)

/-- A digit needs no escape. -/
theorem not_mem_decimalDigits (n : Nat) : '/' ∉ Number.decimalDigits n := by
  intro hmem
  obtain ⟨d, hd, heq⟩ := Number.isDigit_of_mem_decimalDigits hmem
  have hall : ∀ d < 10, '/' ≠ Number.digitChar d := by decide
  exact hall d hd heq

/-- The place of an item of the finalizers. -/
theorem ofText?_finalizer (position : Nat) : ∃ name,
    ofText? ("/metadata/finalizers/" ++ Number.decimal position) =
      some ["metadata", "finalizers", name] := by
  refine ⟨String.ofList (unescape (Number.decimalDigits position)), ?_⟩
  have htext : ("/metadata/finalizers/" ++ Number.decimal position).toList =
      '/' :: ("metadata".toList ++ '/' :: ("finalizers".toList ++
        '/' :: Number.decimalDigits position)) := by
    simp [Number.decimal]
  have hpieces := pieces_of_not_mem (not_mem_decimalDigits position)
  rw [ofText?, htext]
  simp only [pieces_append (show '/' ∉ "metadata".toList by decide),
    pieces_append (show '/' ∉ "finalizers".toList by decide), hpieces]
  rfl

end Pointer

/-- A test changes nothing. -/
theorem PatchStep.eq_of_run?_test {path : String} {expected value value' : Json}
    (h : (PatchStep.test path expected).run? value = some value') : value' = value := by
  obtain ⟨place, -, h⟩ := Option.bind_eq_some_iff.1 h
  split at h
  · exact (Option.some.inj h).symm
  · cases h

/-- A patch of one step behind a test makes this step. -/
theorem patch?_test {path : String} {expected value value' : Json} {step : PatchStep}
    (h : patch? [.test path expected, step] value = some value') : step.run? value = some value' := by
  change ((PatchStep.test path expected).run? value).bind
    (fun tested => (step.run? tested).bind some) = some value' at h
  obtain ⟨tested, htest, h⟩ := Option.bind_eq_some_iff.1 h
  rw [PatchStep.eq_of_run?_test htest, Option.bind_fun_some] at h
  exact h

end Json

namespace Metadata

/-- The identity that metadata record. -/
def recordedName (m : Metadata) : Option String :=
  (m.annotationMap.get? Topic.externalNameKey).filter fun name =>
    !name.isEmpty && some name != m.name

/-- Metadata that hold the finalizer of the operator. -/
def HoldsFinalizer (m : Metadata) : Prop := finalizerName ∈ m.finalizerList

/-- The change of metadata that asks for the deletion of the object. -/
def deletionChange (time : Instant) : Json :=
  .object [("deletionTimestamp", time.toJson)]

/-- Metadata in which the time of the deletion is set are read with this time, cut to the second. -/
theorem read_deletionChange {value : Json} (hdistinct : value.Distinct) {m : Metadata}
    (h : (shape 1).read (.ofJson value) = .ok m) {time : Instant} (htime : time.IsLegible) :
    (shape 1).read (.ofJson (mergePatch value (deletionChange time))) =
      .ok { m with deletionTimestamp := some time.toSecond } := by
  obtain ⟨members, rfl⟩ := isObject_of_read rfl h
  have hread : readOptional Instant.reader (.ofJson time.toJson) = .ok (some time.toSecond) := by
    show (Instant.reader (.ofJson time.toJson)).map some = _
    rw [Instant.read_toJson htime]
    rfl
  have hne : time.toJson ≠ .null := nofun
  exact (slot_deletionTimestamp 1).read_change hdistinct.1 h hne hread

/-- An object that holds metadata: no object in it names a member twice, and its part of that name is
read as the metadata. -/
structure StoredIn (m : Metadata) (object : Json) : Prop where
  isObject : ∃ members, object = .object members
  distinct : object.Distinct
  read : (shape 1).read (.ofJson (object.get "metadata")) = .ok m

namespace StoredIn

variable {m : Metadata} {object : Json}

theorem distinct_get (h : m.StoredIn object) : (object.get "metadata").Distinct :=
  Distinct.getD_find h.distinct.ofMembers.2 "metadata"

/-- A patch of another part leaves the metadata alone. -/
theorem patchElsewhere (h : m.StoredIn object) {name : String} (hname : "metadata" ≠ name)
    {change : Json} (hne : change ≠ .null) (hchange : change.Distinct) :
    m.StoredIn (mergePatch object (.object [(name, change)])) := by
  refine ⟨⟨_, rfl⟩, distinct_mergePatch h.distinct ⟨by simp [names], hchange, True.intro⟩, ?_⟩
  rw [get_mergePatch_single hne, if_neg hname]
  exact h.read

/-- A patch after which the metadata can be read changes them to what is read. -/
theorem patch (h : m.StoredIn object) {change : Json} (hne : change ≠ .null)
    (hchange : change.Distinct) {m' : Metadata}
    (hread : (shape 1).read (.ofJson (mergePatch (object.get "metadata") change)) = .ok m') :
    m'.StoredIn (mergePatch object (.object [("metadata", change)])) := by
  refine ⟨⟨_, rfl⟩, distinct_mergePatch h.distinct ⟨by simp [names], hchange, True.intro⟩, ?_⟩
  rw [get_mergePatch_single hne, if_pos rfl]
  exact hread

/-- A request to delete the object sets the time of the deletion. -/
theorem requestDeletion (h : m.StoredIn object) {time : Instant} (htime : time.IsLegible) :
    StoredIn { m with deletionTimestamp := some time.toSecond }
      (mergePatch object (.object [("metadata", deletionChange time)])) := by
  have hchange : (deletionChange time).Distinct :=
    ⟨by simp [names], distinct_text time.write, True.intro⟩
  exact h.patch (object_ne_null _) hchange (read_deletionChange h.distinct_get h.read htime)

/-- A write of a pass records an identity or leaves the metadata alone. -/
theorem write (h : m.StoredIn object) (w : StoreWrite) :
    (match w with
      | .externalName identity => m.annotate Topic.externalNameKey identity
      | _ => m).StoredIn (mergePatch object w.patch) := by
  cases w with
  | parameters p =>
      have hchange : (Json.object [("forProvider", p.toJson)]).Distinct :=
        ⟨by simp [names], p.distinct_toJson, True.intro⟩
      exact h.patchElsewhere (by decide) (object_ne_null _) hchange
  | externalName identity =>
      exact h.patch (object_ne_null _) (distinct_annotationChange _ _)
        (read_annotationChange h.distinct_get h.read _ identity)
  | status s => exact h.patchElsewhere (by decide) (object_ne_null _) s.distinct_patchBody

/-- The metadata are an object, whose finalizers are a list of texts or null. -/
theorem exists_finalizers (h : m.StoredIn object) :
    ∃ members metadata, object = .object members ∧ find "metadata" members = some (.object metadata) ∧
      ((find "finalizers" metadata).getD .null = .null ∨
        ∃ texts, find "finalizers" metadata = some (textList texts)) := by
  obtain ⟨members, rfl⟩ := h.isObject
  obtain ⟨metadata, hmetadata⟩ := isObject_of_read rfl h.read
  have hread := h.read
  have hdistinct := h.distinct_get
  rw [hmetadata] at hread hdistinct
  refine ⟨members, metadata, rfl, ?_, ?_⟩
  · change (find "metadata" members).getD .null = _ at hmetadata
    cases hfind : find "metadata" members with
    | none =>
        rw [hfind] at hmetadata
        cases hmetadata
    | some value =>
        rw [hfind] at hmetadata
        exact congrArg some hmetadata
  · have hfinalizers := (slot_finalizers 1).read_getD_find rfl
      ((read_object_iff hdistinct.1).1 hread).1 hdistinct.1
    rcases readOptional_iff.1 hfinalizers with ⟨hnull, -⟩ | ⟨hne, texts, htexts, -⟩
    · exact .inl hnull
    · right
      cases hfind : find "finalizers" metadata with
      | none =>
          rw [hfind] at hne
          exact absurd rfl hne
      | some value =>
          rw [hfind] at htexts
          exact ⟨texts, congrArg some (readTexts_iff.1 htexts)⟩

/-- Finalizers that are set in the metadata are read there. -/
theorem putFinalizers {members metadata : List (String × Json)} (h : m.StoredIn (.object members))
    (hfind : find "metadata" members = some (.object metadata)) (texts : List String) :
    StoredIn { m with finalizers := some texts }
      (.object (put "metadata" (.object (put "finalizers" (textList texts) metadata)) members)) := by
  have hmetadata : (Json.object members).get "metadata" = .object metadata := by
    rw [Json.get, Json.members, hfind]
    rfl
  have hread := h.read
  have hdistinct := h.distinct_get
  rw [hmetadata] at hread hdistinct
  have htexts : (textList texts).Distinct := itemsDistinct_map distinct_text texts
  refine ⟨⟨_, rfl⟩, ⟨nodup_names_put h.distinct.1, membersDistinct_put h.distinct.2
    ⟨nodup_names_put hdistinct.1, membersDistinct_put hdistinct.2 htexts⟩⟩, ?_⟩
  rw [Json.get, Json.members, find_put, if_pos rfl]
  refine (slot_finalizers 1).read_put hdistinct.1 hread ?_
  have hlist : readList (readText "a string") (.ofJson (textList texts)) = .ok texts :=
    readTexts_iff.2 rfl
  show (readList (readText "a string") (.ofJson (textList texts))).map some = _
  rw [hlist]
  rfl

end StoredIn

/-- Finalizers that are added as a whole. -/
theorem StoredIn.addFinalizers {m : Metadata} {object object' : Json} (h : m.StoredIn object)
    {texts : List String}
    (hchange : changeAt? (PatchStep.addTo (textList texts)) ["metadata", "finalizers"] object =
      some object') : StoredIn { m with finalizers := some texts } object' := by
  obtain ⟨members, metadata, rfl, hmetadata, -⟩ := h.exists_finalizers
  simp only [changeAt?, hmetadata, Option.bind_some, PatchStep.addTo, Option.map_some] at hchange
  obtain rfl := Option.some.inj hchange
  exact h.putFinalizers hmetadata texts

/-- A change inside the finalizers that leaves a list of texts. -/
theorem StoredIn.changeFinalizers {m : Metadata} {object object' : Json} (h : m.StoredIn object)
    {change : Json → String → Option Json} {name : String} (hnull : change .null name = none)
    (htexts : ∀ texts value, change (textList texts) name = some value →
      ∃ texts', value = textList texts')
    (hchange : changeAt? change ["metadata", "finalizers", name] object = some object') :
    ∃ texts, StoredIn { m with finalizers := some texts } object' := by
  obtain ⟨members, metadata, rfl, hmetadata, hfinalizers⟩ := h.exists_finalizers
  simp only [changeAt?, hmetadata, Option.bind_some] at hchange
  obtain ⟨_, hinner, rfl⟩ := Option.map_eq_some_iff.1 hchange
  obtain ⟨list, hlist, hinner⟩ := Option.bind_eq_some_iff.1 hinner
  obtain ⟨list', hlist', rfl⟩ := Option.map_eq_some_iff.1 hinner
  rw [hlist] at hfinalizers
  rcases hfinalizers with hnone | ⟨texts, hsome⟩
  · change list = .null at hnone
    rw [hnone, hnull] at hlist'
    cases hlist'
  · obtain rfl := Option.some.inj hsome
    obtain ⟨texts', rfl⟩ := htexts texts list' hlist'
    exact ⟨texts', h.putFinalizers hmetadata texts'⟩

/-- A text that is added to a list of texts or removed from one leaves a list of texts. -/
theorem exists_texts_of_addTo {texts : List String} {text : String} {value : Json}
    (h : PatchStep.addTo (.text text) (textList texts) "-" = some value) :
    ∃ texts', value = textList texts' := by
  refine ⟨texts ++ [text], (Option.some.inj h).symm.trans ?_⟩
  simp [textList]

theorem exists_texts_of_removeFrom {texts : List String} {name : String} {value : Json}
    (h : PatchStep.removeFrom (textList texts) name = some value) :
    ∃ texts', value = textList texts' := by
  obtain ⟨i, -, h⟩ := Option.bind_eq_some_iff.1 h
  split at h
  · refine ⟨texts.eraseIdx i, (Option.some.inj h).symm.trans ?_⟩
    rw [List.eraseIdx_map]
    rfl
  · cases h

/-- Patches that give the finalizer of the operator to an object that holds some others, or take it from
its position. -/
inductive HandlesFinalizer : List PatchStep → Prop
  | addition (held : List String) : HandlesFinalizer (Controller.additionSteps held)
  | removal (position : Nat) : HandlesFinalizer (Controller.removalSteps position)

/-- Such a patch changes the finalizers of the metadata and nothing else, if it can be made. -/
theorem StoredIn.handleFinalizer {m : Metadata} {object object' : Json} (h : m.StoredIn object)
    {steps : List PatchStep} (hsteps : HandlesFinalizer steps)
    (hpatch : patch? steps object = some object') :
    ∃ texts, StoredIn { m with finalizers := some texts } object' := by
  cases hsteps with
  | addition held =>
      unfold Controller.additionSteps at hpatch
      split at hpatch
      · have hadd := patch?_test hpatch
        exact ⟨[finalizerName], h.addFinalizers hadd⟩
      · have hadd := patch?_test hpatch
        exact h.changeFinalizers rfl (fun _ _ hvalue => exists_texts_of_addTo hvalue) hadd
  | removal position =>
      obtain ⟨name, hplace⟩ := Pointer.ofText?_finalizer position
      have hremove := patch?_test hpatch
      rw [PatchStep.run?, hplace, Option.bind_some] at hremove
      exact h.changeFinalizers rfl (fun _ _ hvalue => exists_texts_of_removeFrom hvalue) hremove

end Metadata

/-- A server answers a patch without carrying it out, or carries it out if it can be made. -/
theorem ApiServer.object_patch (api : ApiServer) (address : Address) (change : ObjectChange) :
    (api.patch address change).2.object = api.object ∨
      change.result? api.object = some (api.patch address change).2.object := by
  have hcarry : ∀ server : ApiServer, (server.carryOut change).2.object = server.object ∨
      change.result? server.object = some (server.carryOut change).2.object := by
    intro server
    unfold carryOut
    cases hresult : change.result? server.object with
    | none => exact .inl rfl
    | some object => exact .inr rfl
  unfold patch
  dsimp only
  split
  · exact .inl rfl
  · exact hcarry _
  · exact hcarry _

namespace Store

variable {store : Store} {object : Json}

/-- A patch that is not even sent changes nothing. -/
theorem object_patchPart (api : ApiServer) (space name part : String) (manager : Option String)
    (change : ObjectChange) :
    (patchPart api space name part manager change).2.object = api.object ∨
      change.result? api.object = some (patchPart api space name part manager change).2.object := by
  unfold patchPart
  split
  · exact .inl rfl
  · exact api.object_patch _ _

/-- The stored object holds some metadata. -/
def HoldsMetadata (store : Store) (m : Metadata) : Prop :=
  ∃ object, store.object? = some object ∧ m.StoredIn object

/-- A store in which the deletion of the object was requested. -/
def requestDeletion (time : Instant) : Store → Store
  | recording writes => recording writes
  | server manager api => server manager { api with
      object := mergePatch api.object (.object [("metadata", Metadata.deletionChange time)]) }

theorem HoldsMetadata.requestDeletion {m : Metadata} (h : store.HoldsMetadata m) {time : Instant}
    (htime : time.IsLegible) : (store.requestDeletion time).HoldsMetadata
      { m with deletionTimestamp := some time.toSecond } := by
  obtain ⟨object, hobject, hm⟩ := h
  cases store with
  | recording writes => cases hobject
  | server manager api =>
      obtain rfl := Option.some.inj hobject
      exact ⟨_, rfl, hm.requestDeletion htime⟩

/-- A write records an identity in the stored metadata or leaves them alone. -/
theorem HoldsMetadata.write {m : Metadata} (h : store.HoldsMetadata m) (topic : Topic)
    (w : StoreWrite) : (store.write topic w).2.HoldsMetadata m ∨
      ∃ identity, w = .externalName identity ∧
        (store.write topic w).2.HoldsMetadata (m.annotate Topic.externalNameKey identity) := by
  obtain ⟨object, hobject, hm⟩ := h
  cases store with
  | recording writes => cases hobject
  | server manager api =>
      obtain rfl := Option.some.inj hobject
      cases hspace : topic.metadata.namespaceName with
      | none =>
          simp only [Store.write, hspace]
          exact .inl ⟨_, rfl, hm⟩
      | some space =>
          simp only [Store.write, hspace]
          rcases object_patchPart api space topic.anyName w.subresource (some manager)
            (.merge w.patch) with hsame | hdone
          · exact .inl ⟨_, rfl, hsame ▸ hm⟩
          · have hafter := hm.write w
            rw [Option.some.inj hdone] at hafter
            cases w with
            | parameters | status => exact .inl ⟨_, rfl, hafter⟩
            | externalName identity => exact .inr ⟨identity, rfl, _, rfl, hafter⟩

/-- A patch of the finalizer of the operator changes the stored finalizers or leaves them alone. -/
theorem HoldsMetadata.patchFinalizers {m : Metadata} (h : store.HoldsMetadata m)
    (space name : String) {steps : List PatchStep} (hsteps : Metadata.HandlesFinalizer steps) :
    ∃ finalizers, (store.patchFinalizers space name steps).2.HoldsMetadata
      { m with finalizers := finalizers } := by
  obtain ⟨object, hobject, hm⟩ := h
  cases store with
  | recording writes => cases hobject
  | server manager api =>
      obtain rfl := Option.some.inj hobject
      rcases object_patchPart api space name "" none (.steps steps) with hsame | hdone
      · exact ⟨m.finalizers, _, rfl, hsame ▸ hm⟩
      · obtain ⟨texts, hafter⟩ := hm.handleFinalizer hsteps hdone
        exact ⟨some texts, _, rfl, hafter⟩

end Store

/-- An object that holds a topic holds its metadata. -/
theorem Topic.StoredIn.toMetadata {t : Topic} {object : Json} (h : t.StoredIn object) :
    t.metadata.StoredIn object :=
  ⟨h.isObject, h.distinct, h.read_metadata⟩

end TopicOperator
