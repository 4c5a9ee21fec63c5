import TopicOperator.Proofs.Time.Stamp
import TopicOperator.Proofs.Topic.Slots
import TopicOperator.Store.Write

/-!
# Statuses written and read back

A status that is legible is read back as it was written, with its times cut to seconds, whatever its
patch replaces.  The patch of an observation sets every part, so nothing of the old one stays.
-/

namespace TopicOperator

open Json Json.Draft Json.Draft.RecordKind

namespace Instant

theorem read_toJson {t : Instant} (h : t.IsLegible) :
    reader (.ofJson t.toJson) = .ok t.toSecond := by
  simp only [toJson, ofJson, reader, readWording, Wording.read, bind, Except.bind, read?_write h]
  rfl

end Instant

namespace Condition

/-- A condition with its time cut to the second. -/
def toSecond (c : Condition) : Condition :=
  { c with lastTransition := c.lastTransition.map Instant.toSecond }

/-- A condition whose written form can be read. -/
def IsLegible (c : Condition) : Prop :=
  ∀ t ∈ c.lastTransition, t.IsLegible

/-- A condition that is settled at a legible time from a legible one is legible. -/
theorem isLegible_settle {now : Instant} (hnow : now.IsLegible) {old new : Option Condition}
    (hold : ∀ b, old = some b → b.IsLegible) {c : Condition} (h : settle now old new = some c) :
    c.IsLegible := by
  intro t ht
  cases old with
  | none =>
      cases new with
      | none => cases h
      | some new =>
          obtain rfl := Option.some.inj h
          exact Option.some.inj ht ▸ hnow
  | some old =>
      cases new with
      | none =>
          obtain rfl := Option.some.inj h
          exact hold old rfl t ht
      | some new =>
          obtain rfl := Option.some.inj h
          change transitionTime now old new = some t at ht
          unfold transitionTime at ht
          split at ht
          · rcases Option.or_eq_some_iff.1 ht with hkept | ⟨-, hset⟩
            · exact hold old rfl t hkept
            · exact Option.some.inj hset ▸ hnow
          · exact Option.some.inj ht ▸ hnow

/-- A condition is filled from its members one after the other. -/
theorem fills_toJson {c : Condition} (h : c.IsLegible) :
    shape.Fills c.toJson.members shape.blank c.toSecond := by
  have htime := slot_lastTransition.fills_written (rfl : shape.blank.lastTransition = none)
    Instant.toJson Instant.toSecond c.lastTransition fun t ht => by
      show (Instant.reader (.ofJson t.toJson)).map some = _
      rw [Instant.read_toJson (h t ht)]
      rfl
  have hmessage (r : Condition) (hr : r.message = none) :=
    slot_message.fills_written hr .text id c.message fun _ _ => rfl
  simp only [Option.map_id] at hmessage
  have hreason : readVariant ConditionReason.named (.ofJson (.text c.reason.name)) = .ok c.reason := by
    cases c.reason with
    | creating | available | unavailable | deleting | reconcileSuccess | reconcileError => rfl
  have hstatus : readVariant ConditionStatus.named (.ofJson (.text c.status.name)) = .ok c.status := by
    cases c.status with
    | holds | fails | unknown => rfl
  have htype : readVariant ConditionType.named (.ofJson (.text c.type.name)) = .ok c.type := by
    cases c.type with
    | ready | synced => rfl
  exact (htime.append (hmessage _ rfl)).append
    ((slot_reason.fills_single hreason _).append
      ((slot_status.fills_single hstatus _).append (slot_type.fills_single htype _)))

theorem distinct_toJson (c : Condition) : c.toJson.Distinct := by
  have hnames : (names c.toJson.members).Sublist
      ["lastTransitionTime", "message", "reason", "status", "type"] := by
    simp only [toJson, Json.members, names_append]
    exact ((names_optional_sublist _ _ _).append (names_optional_sublist _ _ _)).append
      (List.Sublist.refl _)
  refine ⟨List.Nodup.sublist hnames (by decide), ?_⟩
  simp only [membersDistinct_append]
  exact ⟨⟨membersDistinct_optional (fun t : Instant => distinct_text t.write) _ _,
    membersDistinct_optional distinct_text _ _⟩, True.intro, True.intro, True.intro, True.intro⟩

/-- A legible condition is read as it was written. -/
theorem read_toJson {c : Condition} (h : c.IsLegible) :
    reader (.ofJson c.toJson) = .ok c.toSecond := by
  refine (read_object_iff c.distinct_toJson.1).2 ⟨fills_toJson h, ?_⟩
  simp [Complete, shape, requiredField, optionalField, names]

end Condition

namespace Observation

/-- An integer of 64 bits. -/
def IsWord (n : Int) : Prop :=
  Number.int64.least ≤ n ∧ n ≤ Number.int64.greatest

/-- An observation whose counters have 64 bits. -/
structure IsLegible (o : Observation) : Prop where
  confirmed : ∀ n ∈ o.subscriptionsConfirmed, IsWord n
  pending : ∀ n ∈ o.subscriptionsPending, IsWord n
  deleted : ∀ n ∈ o.subscriptionsDeleted, IsWord n

theorem isLegible_empty : IsLegible {} :=
  ⟨nofun, nofun, nofun⟩

theorem isWord_of_readOptional {d : Draft} {counter : Option Int}
    (h : readOptional readInteger d = .ok counter) : ∀ n ∈ counter, IsWord n := by
  intro n hn
  rw [Option.mem_def.1 hn] at h
  unfold readOptional at h
  split at h
  · cases h
  · obtain ⟨m, hm, heq⟩ := map_eq_ok_iff.1 h
    obtain rfl := Option.some.inj heq
    exact bounds_of_readInteger hm

/-- What is read of an observation is legible. -/
theorem isLegible_of_read {d : Draft} {o : Observation} (h : reader d = .ok o) : o.IsLegible := by
  refine invariant_read ?_ isLegible_empty h
  simp only [shape, optionalField, List.forall_mem_cons, map_eq_ok_iff, forall_exists_index, and_imp]
  refine ⟨?_, ?_, ?_, ?_, ?_, List.forall_mem_nil _⟩
  · rintro d update v - rfl r hr
    exact ⟨hr.confirmed, hr.pending, hr.deleted⟩
  · rintro d update v hv rfl r hr
    exact ⟨isWord_of_readOptional hv, hr.pending, hr.deleted⟩
  · rintro d update v hv rfl r hr
    exact ⟨hr.confirmed, isWord_of_readOptional hv, hr.deleted⟩
  · rintro d update v hv rfl r hr
    exact ⟨hr.confirmed, hr.pending, isWord_of_readOptional hv⟩
  · rintro d update v - rfl r hr
    exact ⟨hr.confirmed, hr.pending, hr.deleted⟩

/-- What the reported attributes say about a topic is legible. -/
theorem isLegible_ofAttributes (attributes : ObservedAttributes) :
    (ofAttributes attributes).IsLegible := by
  have hword (name : String) : ∀ n ∈ counter attributes name, IsWord n := by
    intro n hn
    obtain ⟨s, -, hs⟩ := Option.bind_eq_some_iff.1 (Option.mem_def.1 hn)
    exact Number.bounds_of_read (by decide) (by decide) hs
  exact ⟨hword _, hword _, hword _⟩

theorem distinct_observationPatch (o : Observation) : (StoreWrite.observationPatch o).Distinct :=
  ⟨by simp [names], distinct_nullable distinct_text _, distinct_nullable distinct_integer _,
    distinct_nullable distinct_integer _, distinct_nullable distinct_integer _,
    distinct_nullable distinct_text _, True.intro⟩

/-- What the patch of an observation leaves is read as the observation that was written, whatever it
replaces. -/
theorem read_observationPatch (target : Json) (o : Observation) :
    reader (.ofJson (mergePatch target (StoreWrite.observationPatch o))) =
      reader (.ofJson o.toJson) := by
  have htext (s : String) (old : Json) :
      Json.text s ≠ .null ∧ mergePatch old (.text s) = .text s := ⟨nofun, rfl⟩
  have hinteger (n : Int) (old : Json) :
      Json.integer n ≠ .null ∧ mergePatch old (.integer n) = .integer n := ⟨nofun, rfl⟩
  have hmerged : merged target.members (StoreWrite.observationPatch o).members =
      o.toJson.members := by
    simp only [StoreWrite.observationPatch, toJson, Json.members, merged_nullable htext,
      merged_nullable hinteger, merged, List.append_nil, List.append_assoc]
  show shape.read _ = shape.read _
  rw [StoreWrite.observationPatch, RecordKind.read_mergePatch (by simp [names])
    (by simp [shape, optionalField, names])]
  exact congrArg (fun members => shape.read (.ofJson (.object members))) hmerged

end Observation

namespace Status

/-- A status with its times cut to the second. -/
def toSecond (s : Status) : Status :=
  { s with conditions := s.conditions.map Condition.toSecond }

/-- A status whose written form can be read. -/
structure IsLegible (s : Status) : Prop where
  conditions : ∀ c ∈ s.conditions, c.IsLegible
  atProvider : s.atProvider.IsLegible

theorem isLegible_atProvider_of_read {d : Draft} {s : Status} (h : reader d = .ok s) :
    s.atProvider.IsLegible := by
  refine invariant_read ?_ (P := fun s => s.atProvider.IsLegible) Observation.isLegible_empty h
  simp only [shape, defaultField, List.forall_mem_cons, map_eq_ok_iff, forall_exists_index, and_imp]
  refine ⟨?_, ?_, List.forall_mem_nil _⟩
  · rintro d update v - rfl r hr
    exact hr
  · rintro d update v hv rfl r -
    exact Observation.isLegible_of_read hv

theorem toSecond_toSecond (s : Status) : s.toSecond.toSecond = s.toSecond := by
  have htime : Instant.toSecond ∘ Instant.toSecond = Instant.toSecond :=
    funext Instant.toSecond_toSecond
  have hcondition : Condition.toSecond ∘ Condition.toSecond = Condition.toSecond := by
    funext c
    simp [Condition.toSecond, htime]
  simp [toSecond, hcondition]

/-- A status that advances at a legible time stays legible. -/
theorem isLegible_next {now : Instant} (hnow : now.IsLegible) {current : Option Status}
    (hcurrent : ∀ s ∈ current, s.IsLegible) (updates : List Condition)
    {observation : Option Observation} (hobservation : ∀ o ∈ observation, o.IsLegible) :
    (next now current updates observation).IsLegible := by
  have hold : (current.getD {}).IsLegible := by
    cases current with
    | none => exact ⟨nofun, Observation.isLegible_empty⟩
    | some s => exact hcurrent s rfl
  constructor
  · intro c hc
    obtain ⟨type, -, hc⟩ := List.mem_filterMap.1 hc
    refine Condition.isLegible_settle hnow (fun b hb => hold.conditions b ?_) hc
    exact List.mem_reverse.1 (List.mem_of_find?_eq_some hb)
  · cases observation with
    | none => exact hold.atProvider
    | some o => exact hobservation o rfl

/-- The part of a patch that is about the status itself. -/
def patchBody (s : Status) : Json :=
  .object [("conditions", .list (s.conditions.map Condition.toJson)),
    ("atProvider", StoreWrite.observationPatch s.atProvider)]

theorem distinct_patchBody (s : Status) : s.patchBody.Distinct :=
  ⟨by simp [names], itemsDistinct_map Condition.distinct_toJson _,
    Observation.distinct_observationPatch _, True.intro⟩

/-- What the patch of a status leaves is read as the status that was written, whatever it replaces. -/
theorem read_patchBody (target : Json) (s : Status) :
    reader (.ofJson (mergePatch target s.patchBody)) = reader (.ofJson s.toJson) := by
  show shape.read _ = shape.read _
  rw [patchBody, RecordKind.read_mergePatch (by simp [names]) (by simp [shape, defaultField, names])]
  -- The conditions replace those that are there, and the observation is merged into the one there.
  refine ReadsAlike.read_eq (.cons (fun _ _ => rfl) (.cons ?_ (.refl _ _)))
  rintro field ⟨⟩
  simp only [defaultField, Observation.read_observationPatch]

end Status

end TopicOperator
