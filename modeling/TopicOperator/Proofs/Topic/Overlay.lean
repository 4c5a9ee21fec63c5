import TopicOperator.Proofs.Topic.Slots
import TopicOperator.Sync.LateInitialization

/-!
# Declared state merged into declared state

What a merge patch of parameters makes of the parameters that it is merged into: everything that the
patch declares is taken over, tags key by key, and the rest stays.  This keeps what was declared before
exactly if both agree wherever both declare something.
-/

namespace TopicOperator

open Json Json.Draft Json.Draft.RecordKind

namespace Parameters

/-- Declared state put over other declared state. -/
def onto (p q : Parameters) : Parameters where
  region := p.region
  deliveryPolicy := p.deliveryPolicy.or q.deliveryPolicy
  displayName := p.displayName.or q.displayName
  policy := p.policy.or q.policy
  fifoTopic := p.fifoTopic.or q.fifoTopic
  contentBasedDeduplication := p.contentBasedDeduplication.or q.contentBasedDeduplication
  kmsMasterKeyId := p.kmsMasterKeyId.or q.kmsMasterKeyId
  tags := (p.tags.map fun m => q.tagMap.insertAll m.entries).or q.tags

/-- All that is declared stays declared as it is. -/
structure ExtendedBy (q r : Parameters) : Prop where
  region : r.region = q.region
  deliveryPolicy : ∀ v ∈ q.deliveryPolicy, r.deliveryPolicy = some v
  displayName : ∀ v ∈ q.displayName, r.displayName = some v
  policy : ∀ v ∈ q.policy, r.policy = some v
  fifoTopic : ∀ v ∈ q.fifoTopic, r.fifoTopic = some v
  contentBasedDeduplication : ∀ v ∈ q.contentBasedDeduplication, r.contentBasedDeduplication = some v
  kmsMasterKeyId : ∀ v ∈ q.kmsMasterKeyId, r.kmsMasterKeyId = some v
  tags : ∀ v ∈ q.tags, r.tags = some v

/-- Nothing is declared in two ways.  Tags of different keys do not contradict each other. -/
structure AgreesWith (p q : Parameters) : Prop where
  region : p.region = q.region
  deliveryPolicy : ∀ v ∈ p.deliveryPolicy, ∀ w ∈ q.deliveryPolicy, v = w
  displayName : ∀ v ∈ p.displayName, ∀ w ∈ q.displayName, v = w
  policy : ∀ v ∈ p.policy, ∀ w ∈ q.policy, v = w
  fifoTopic : ∀ v ∈ p.fifoTopic, ∀ w ∈ q.fifoTopic, v = w
  contentBasedDeduplication :
    ∀ v ∈ p.contentBasedDeduplication, ∀ w ∈ q.contentBasedDeduplication, v = w
  kmsMasterKeyId : ∀ v ∈ p.kmsMasterKeyId, ∀ w ∈ q.kmsMasterKeyId, v = w
  tags : ∀ m ∈ p.tags, ∀ n ∈ q.tags, ∀ key v, m.get? key = some v → n.get? key = some v

/-- The members of written parameters but for the tags. -/
def plainMembers (p : Parameters) : List (String × Json) :=
  ("region", Json.text p.region) ::
    (Json.optional "deliveryPolicy" .text p.deliveryPolicy ++
      Json.optional "displayName" .text p.displayName ++
      Json.optional "policy" .text p.policy ++
      Json.optional "fifoTopic" .bool p.fifoTopic ++
      Json.optional "contentBasedDeduplication" .bool p.contentBasedDeduplication ++
      Json.optional "kmsMasterKeyId" .text p.kmsMasterKeyId)

theorem toJson_members (p : Parameters) :
    p.toJson.members = p.plainMembers ++ Json.optional "tags" TextMap.toJson p.tags := rfl

theorem distinct_textMap (m : TextMap String) : m.toJson.Distinct := by
  have hnames : names m.toJson.members = m.keys := by
    simp [names, TextMap.toJson, Json.members, TextMap.keys]
  refine ⟨hnames ▸ m.keys_nodup, ?_⟩
  rw [membersDistinct_iff]
  intro e he
  obtain ⟨entry, -, rfl⟩ := List.mem_map.1 he
  exact distinct_text entry.2

theorem distinct_toJson (p : Parameters) : p.toJson.Distinct := by
  have hnames : (names p.toJson.members).Sublist
      ("region" :: (["deliveryPolicy"] ++ ["displayName"] ++ ["policy"] ++ ["fifoTopic"] ++
        ["contentBasedDeduplication"] ++ ["kmsMasterKeyId"] ++ ["tags"])) := by
    simp only [toJson_members, plainMembers, List.cons_append, names_cons, names_append]
    refine List.Sublist.cons_cons "region" ?_
    exact ((((((names_optional_sublist _ _ _).append (names_optional_sublist _ _ _)).append
      (names_optional_sublist _ _ _)).append (names_optional_sublist _ _ _)).append
      (names_optional_sublist _ _ _)).append (names_optional_sublist _ _ _)).append
      (names_optional_sublist _ _ _)
  refine ⟨List.Nodup.sublist hnames (by decide), ?_⟩
  show MembersDistinct p.toJson.members
  simp only [toJson_members, plainMembers, List.cons_append, MembersDistinct,
    membersDistinct_append]
  exact ⟨distinct_text _, ⟨⟨⟨⟨⟨membersDistinct_optional distinct_text _ _,
    membersDistinct_optional distinct_text _ _⟩, membersDistinct_optional distinct_text _ _⟩,
    membersDistinct_optional distinct_bool _ _⟩, membersDistinct_optional distinct_bool _ _⟩,
    membersDistinct_optional distinct_text _ _⟩, membersDistinct_optional distinct_textMap _ _⟩

/-- Patching with parameters puts them over those that are there. -/
theorem fills_toJson {members : List (String × Json)} {q : Parameters}
    (hq : shape.Fills members shape.blank q) (hnames : (names members).Nodup) (p : Parameters) :
    shape.Fills (mergeMembers members p.toJson.members) shape.blank (p.onto q) := by
  have hregion := slot_region.fills_change hq (nofun : Json.text p.region ≠ .null)
    (a := p.region) rfl
  have hdelivery := slot_deliveryPolicy.fills_optional hregion p.deliveryPolicy
    fun s _ => settles_text "a string" s
  have hdisplay := slot_displayName.fills_optional hdelivery p.displayName
    fun s _ => settles_text "a string" s
  have hpolicy := slot_policy.fills_optional hdisplay p.policy
    fun s _ => settles_text "a string" s
  have hfifo := slot_fifoTopic.fills_optional hpolicy p.fifoTopic fun b _ => settles_bool b
  have hdedup := slot_contentBasedDeduplication.fills_optional hfifo p.contentBasedDeduplication
    fun b _ => settles_bool b
  have hplain := slot_kmsMasterKeyId.fills_optional hdedup p.kmsMasterKeyId
    fun s _ => settles_text "a string" s
  simp only [← mergeMembers_append, ← mergeMembers_cons] at hplain
  change shape.Fills (mergeMembers members p.plainMembers) _ _ at hplain
  rw [toJson_members, mergeMembers_append]
  -- The tags are merged into those that are there, key by key.
  have htags := slot_tags.read_getD_find rfl hplain (nodup_names_mergeMembers hnames _)
  cases hp : p.tags with
  | none =>
      unfold onto
      rw [hp]
      exact hplain
  | some m =>
      unfold onto
      rw [hp]
      exact slot_tags.fills_change hplain (object_ne_null _ : m.toJson ≠ .null)
        (readMap_mergePatch htags m.entries)

/-- The patch of parameters can be read after it was merged. -/
theorem read_mergePatch {target : Json} (hdistinct : target.Distinct) {q : Parameters}
    (hq : shape.Fills target.members shape.blank q) (p : Parameters) :
    reader (.ofJson (mergePatch target p.toJson)) = .ok (p.onto q) := by
  have hnames := hdistinct.ofMembers.1
  have hset : ∀ c ∈ p.toJson.members, c.2 ≠ .null := by
    simp only [toJson_members, plainMembers, List.cons_append, List.forall_mem_cons,
      List.forall_mem_append]
    exact ⟨nofun, ⟨⟨⟨⟨⟨fun _ => ne_null_of_mem_optional nofun,
      fun _ => ne_null_of_mem_optional nofun⟩, fun _ => ne_null_of_mem_optional nofun⟩,
      fun _ => ne_null_of_mem_optional nofun⟩, fun _ => ne_null_of_mem_optional nofun⟩,
      fun _ => ne_null_of_mem_optional nofun⟩, fun _ => ne_null_of_mem_optional nofun⟩
  have hregion : "region" ∈ names (mergeMembers target.members p.toJson.members) :=
    (mem_names_mergeMembers hset).2 (.inr List.mem_cons_self)
  have hcomplete : shape.Complete (mergeMembers target.members p.toJson.members) := by
    simpa [Complete, shape, requiredField, optionalField] using hregion
  exact (read_object_iff (nodup_names_mergeMembers hnames _)).2 ⟨fills_toJson hq hnames p, hcomplete⟩

section Or

variable {α : Type} {first second : Option α}

theorem or_keeps_iff :
    (∀ v ∈ second, first.or second = some v) ↔ ∀ v ∈ first, ∀ w ∈ second, v = w := by
  cases first <;> cases second <;> simp

theorem or_eq_left (h : ∀ v ∈ second, first = some v) : first.or second = first := by
  cases second with
  | none => exact Option.or_none
  | some v => rw [h v rfl, Option.some_or]

theorem eq_or_of_mem (v : α) (h : v ∈ first) : first.or second = some v := by
  rw [Option.mem_def.1 h, Option.some_or]

end Or

theorem insertAll_entries_eq_iff (m n : TextMap String) :
    n.insertAll m.entries = n ↔ ∀ key v, m.get? key = some v → n.get? key = some v := by
  constructor
  · intro h key v hv
    rw [← h, TextMap.get?_insertAll_entries, hv]
    rfl
  · intro h
    apply TextMap.ext_get?
    intro key
    rw [TextMap.get?_insertAll_entries]
    cases hm : m.get? key with
    | none => rfl
    | some v => exact (h key v hm).symm

/-- Declared tags stay as they are under other tags exactly if these repeat some of them. -/
theorem tags_onto_iff {p q : Parameters} :
    (∀ n ∈ q.tags, (p.onto q).tags = some n) ↔
      ∀ m ∈ p.tags, ∀ n ∈ q.tags, ∀ key v, m.get? key = some v → n.get? key = some v := by
  cases hq : q.tags with
  | none => simp
  | some n =>
      cases hp : p.tags with
      | none => simp [onto, hp, hq]
      | some m =>
          simp only [onto, hp, hq, tagMap, Option.map_some, Option.some_or, Option.getD_some,
            Option.mem_def, Option.some.injEq, forall_eq', insertAll_entries_eq_iff]

/-- Declared state stays declared under other declared state exactly if both agree. -/
theorem extendedBy_onto_iff {p q : Parameters} : q.ExtendedBy (p.onto q) ↔ p.AgreesWith q := by
  constructor
  · intro h
    exact ⟨h.region, or_keeps_iff.1 h.deliveryPolicy, or_keeps_iff.1 h.displayName,
      or_keeps_iff.1 h.policy, or_keeps_iff.1 h.fifoTopic,
      or_keeps_iff.1 h.contentBasedDeduplication, or_keeps_iff.1 h.kmsMasterKeyId,
      tags_onto_iff.1 h.tags⟩
  · intro h
    exact ⟨h.region, or_keeps_iff.2 h.deliveryPolicy, or_keeps_iff.2 h.displayName,
      or_keeps_iff.2 h.policy, or_keeps_iff.2 h.fifoTopic,
      or_keeps_iff.2 h.contentBasedDeduplication, or_keeps_iff.2 h.kmsMasterKeyId,
      tags_onto_iff.2 h.tags⟩

/-- Nothing is left of declared state that the other declared state extends. -/
theorem onto_of_extendedBy {p q : Parameters} (h : q.ExtendedBy p) : p.onto q = p := by
  have htags : (p.tags.map fun m => q.tagMap.insertAll m.entries).or q.tags = p.tags := by
    cases hq : q.tags with
    | none =>
        cases hp : p.tags with
        | none => rfl
        | some m =>
            rw [tagMap, hq]
            exact congrArg some (TextMap.ofList_entries m)
    | some n =>
        rw [h.tags n hq, tagMap, hq]
        exact congrArg some ((insertAll_entries_eq_iff n n).2 fun _ _ hv => hv)
  rw [onto, or_eq_left h.deliveryPolicy, or_eq_left h.displayName, or_eq_left h.policy,
    or_eq_left h.fifoTopic, or_eq_left h.contentBasedDeduplication, or_eq_left h.kmsMasterKeyId,
    htags]

/-- Over parameters that declare nothing, the region apart, all parameters stay as they are. -/
theorem onto_blank (p : Parameters) : p.onto shape.blank = p :=
  onto_of_extendedBy (q := { region := p.region })
    ⟨rfl, nofun, nofun, nofun, nofun, nofun, nofun, nofun⟩

theorem ExtendedBy.refl (p : Parameters) : p.ExtendedBy p :=
  ⟨rfl, fun _ h => h, fun _ h => h, fun _ h => h, fun _ h => h, fun _ h => h, fun _ h => h,
    fun _ h => h⟩

theorem ExtendedBy.trans {p q r : Parameters} (hpq : p.ExtendedBy q) (hqr : q.ExtendedBy r) :
    p.ExtendedBy r where
  region := hqr.region.trans hpq.region
  deliveryPolicy v h := hqr.deliveryPolicy v (hpq.deliveryPolicy v h)
  displayName v h := hqr.displayName v (hpq.displayName v h)
  policy v h := hqr.policy v (hpq.policy v h)
  fifoTopic v h := hqr.fifoTopic v (hpq.fifoTopic v h)
  contentBasedDeduplication v h :=
    hqr.contentBasedDeduplication v (hpq.contentBasedDeduplication v h)
  kmsMasterKeyId v h := hqr.kmsMasterKeyId v (hpq.kmsMasterKeyId v h)
  tags v h := hqr.tags v (hpq.tags v h)

/-- Late initialization leaves all that is declared. -/
theorem extendedBy_completedBy (p : Parameters) (snapshot : Snapshot) :
    p.ExtendedBy (p.completedBy snapshot) :=
  ⟨rfl, eq_or_of_mem, eq_or_of_mem, eq_or_of_mem, eq_or_of_mem, eq_or_of_mem, eq_or_of_mem,
    eq_or_of_mem⟩

end Parameters

end TopicOperator
