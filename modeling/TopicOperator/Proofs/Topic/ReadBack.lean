import TopicOperator.Proofs.Time.Legible
import TopicOperator.Proofs.Topic.WrittenStatus

/-!
# Topics read back from their own written form

Where a topic can be read back from what it is written as, the status that is read is the one that
was written, with its times cut to seconds.  Only a legible status can be read back: a time before
the year zero or behind the last one of a time stamp cannot, nor can a counter of more than 64 bits.
-/

namespace TopicOperator

open Json Json.Draft Json.Draft.RecordKind

theorem Instant.isLegible_of_read_toJson {t t' : Instant} (h : reader (.ofJson t.toJson) = .ok t') :
    t.IsLegible := by
  simp only [toJson, ofJson, reader, readWording, Wording.read, bind, Except.bind] at h
  split at h
  · next hread => exact isLegible_of_read? hread
  · cases h

theorem Condition.isLegible_of_read_toJson {c c' : Condition}
    (h : reader (.ofJson c.toJson) = .ok c') : c.IsLegible := by
  intro t ht
  have hnames : (names c.toJson.members).Nodup := c.distinct_toJson.1
  have hfills := ((read_object_iff hnames).1 h).1
  have hmem : ("lastTransitionTime", t.toJson) ∈ c.toJson.members := by
    simp [toJson, Json.members, Json.optional, Option.mem_def.1 ht]
  have hread := slot_lastTransition.read_of_mem hfills hnames hmem
  have hne : t.toJson ≠ .null := by simp [Instant.toJson]
  rw [readOptional_of_ne_null _ hne] at hread
  obtain ⟨t', ht', -⟩ := map_eq_ok_iff.1 hread
  exact Instant.isLegible_of_read_toJson ht'

namespace Observation

theorem distinct_toJson (o : Observation) : o.toJson.Distinct := by
  have hnames : (names o.toJson.members).Sublist
      ["topicArn", "subscriptionsConfirmed", "subscriptionsPending", "subscriptionsDeleted",
        "effectiveDeliveryPolicy"] := by
    simp only [toJson, Json.members, names_append]
    exact ((((names_optional_sublist _ _ _).append (names_optional_sublist _ _ _)).append
      (names_optional_sublist _ _ _)).append (names_optional_sublist _ _ _)).append
        (names_optional_sublist _ _ _)
  refine ⟨List.Nodup.sublist hnames (by decide), ?_⟩
  simp only [membersDistinct_append]
  exact ⟨⟨⟨⟨membersDistinct_optional distinct_text _ _, membersDistinct_optional distinct_integer _ _⟩,
    membersDistinct_optional distinct_integer _ _⟩, membersDistinct_optional distinct_integer _ _⟩,
    membersDistinct_optional distinct_text _ _⟩

/-- A legible observation is read as it was written. -/
theorem read_toJson {o : Observation} (h : o.IsLegible) : reader (.ofJson o.toJson) = .ok o := by
  have htext (s : String) :
      readOptional (readText "a string") (.ofJson (.text s)) = .ok (some s) := rfl
  have hinteger {n : Int} (hn : IsWord n) :
      readOptional readInteger (.ofJson (.integer n)) = .ok (some n) :=
    (settles_integer hn.1 hn.2).2 .null
  have harn := slot_topicArn.fills_written (rfl : shape.blank.topicArn = none) .text id o.topicArn
    fun s _ => htext s
  have hconfirmed (r : Observation) (hr : r.subscriptionsConfirmed = none) :=
    slot_subscriptionsConfirmed.fills_written hr .integer id o.subscriptionsConfirmed
      fun n hn => hinteger (h.confirmed n hn)
  have hpending (r : Observation) (hr : r.subscriptionsPending = none) :=
    slot_subscriptionsPending.fills_written hr .integer id o.subscriptionsPending
      fun n hn => hinteger (h.pending n hn)
  have hdeleted (r : Observation) (hr : r.subscriptionsDeleted = none) :=
    slot_subscriptionsDeleted.fills_written hr .integer id o.subscriptionsDeleted
      fun n hn => hinteger (h.deleted n hn)
  have hpolicy (r : Observation) (hr : r.effectiveDeliveryPolicy = none) :=
    slot_effectiveDeliveryPolicy.fills_written hr .text id o.effectiveDeliveryPolicy
      fun s _ => htext s
  simp only [Option.map_id_fun, id_eq] at harn hconfirmed hpending hdeleted hpolicy
  refine (read_object_iff o.distinct_toJson.1).2 ⟨?_, by simp [Complete, shape, optionalField]⟩
  exact (((harn.append (hconfirmed _ rfl)).append (hpending _ rfl)).append (hdeleted _ rfl)).append
    (hpolicy _ rfl)

/-- A counter that can be read back has 64 bits. -/
theorem isWord_of_read {n : Int} {counter : Option Int}
    (h : readOptional readInteger (.ofJson (.integer n)) = .ok counter) : IsWord n := by
  rw [readOptional_of_ne_null _ (nofun : Json.integer n ≠ .null)] at h
  obtain ⟨m, hm, -⟩ := map_eq_ok_iff.1 h
  have hbounds := bounds_of_readInteger hm
  rw [eq_of_readInteger hm] at hbounds
  exact hbounds

theorem isLegible_of_read_toJson {o o' : Observation} (h : reader (.ofJson o.toJson) = .ok o') :
    o.IsLegible := by
  have hnames : (names o.toJson.members).Nodup := o.distinct_toJson.1
  have hfills := ((read_object_iff hnames).1 h).1
  refine ⟨fun n hn => ?_, fun n hn => ?_, fun n hn => ?_⟩
  · have hmem : ("subscriptionsConfirmed", Json.integer n) ∈ o.toJson.members := by
      simp [toJson, Json.members, Json.optional, Option.mem_def.1 hn]
    exact isWord_of_read (slot_subscriptionsConfirmed.read_of_mem hfills hnames hmem)
  · have hmem : ("subscriptionsPending", Json.integer n) ∈ o.toJson.members := by
      simp [toJson, Json.members, Json.optional, Option.mem_def.1 hn]
    exact isWord_of_read (slot_subscriptionsPending.read_of_mem hfills hnames hmem)
  · have hmem : ("subscriptionsDeleted", Json.integer n) ∈ o.toJson.members := by
      simp [toJson, Json.members, Json.optional, Option.mem_def.1 hn]
    exact isWord_of_read (slot_subscriptionsDeleted.read_of_mem hfills hnames hmem)

end Observation

namespace Status

theorem nodup_toJson (s : Status) : (names s.toJson.members).Nodup := by
  simp [toJson, Json.members, names]

/-- A legible status is read as it was written. -/
theorem read_toJson {s : Status} (h : s.IsLegible) :
    reader (.ofJson s.toJson) = .ok s.toSecond := by
  have hconditions := readList_of_forall Condition.reader Condition.toJson Condition.toSecond
    s.conditions fun c hc => Condition.read_toJson (h.conditions c hc)
  refine (read_object_iff s.nodup_toJson).2 ⟨?_, by simp [Complete, shape, defaultField]⟩
  exact (slot_conditions.fills_single hconditions _).append
    (slot_atProvider.fills_single (Observation.read_toJson h.atProvider) _)

theorem isLegible_of_read_toJson {s s' : Status} (h : reader (.ofJson s.toJson) = .ok s') :
    s.IsLegible := by
  have hfills := ((read_object_iff s.nodup_toJson).1 h).1
  have hconditions := slot_conditions.read_of_mem hfills s.nodup_toJson List.mem_cons_self
  have hatProvider := slot_atProvider.read_of_mem hfills s.nodup_toJson
    (List.mem_cons_of_mem _ List.mem_cons_self)
  refine ⟨fun c hc => ?_, Observation.isLegible_of_read_toJson hatProvider⟩
  obtain ⟨c', hc'⟩ := exists_of_readList hconditions c hc
  exact Condition.isLegible_of_read_toJson hc'

/-- What can be read back of a status is this status with its times cut to seconds. -/
theorem eq_of_read_toJson {s s' : Status} (h : reader (.ofJson s.toJson) = .ok s') :
    s' = s.toSecond :=
  Except.ok.inj (h.symm.trans (read_toJson (isLegible_of_read_toJson h)))

/-- A status is read back as it is exactly if it is legible and its times are whole seconds. -/
theorem read_toJson_self_iff {s : Status} :
    reader (.ofJson s.toJson) = .ok s ↔ s.IsLegible ∧ s.toSecond = s := by
  constructor
  · intro h
    exact ⟨isLegible_of_read_toJson h, (eq_of_read_toJson h).symm⟩
  · rintro ⟨hlegible, hseconds⟩
    rw [read_toJson hlegible, hseconds]

end Status

theorem Topic.nodup_toJson (t : Topic) : (names t.toJson.members).Nodup := by
  cases hstatus : t.status <;> simp [toJson, Json.members, Json.optional, names, hstatus]

/-- A topic that can be read back keeps its status, with its times cut to seconds. -/
theorem Topic.status_of_ofJson? {t t' : Topic} (h : ofJson? t.toJson = some t') :
    t'.status = t.status.map Status.toSecond := by
  have hread : (shape 0).read (.ofJson t.toJson) = .ok t' := by
    unfold ofJson? reader at h
    cases hread : (shape 0).read (.ofJson t.toJson) with
    | error e =>
        rw [hread] at h
        cases h
    | ok found =>
        rw [hread] at h
        exact congrArg _ (Option.some.inj h)
  have hfills := ((read_object_iff t.nodup_toJson).1 hread).1
  have hpart := (slot_status 0).read_getD_find rfl hfills t.nodup_toJson
  cases hstatus : t.status with
  | none =>
      have hnone : find "status" t.toJson.members = none := by
        rw [find_eq_none_iff]
        simp [toJson, Json.members, Json.optional, names, hstatus]
      rw [hnone] at hpart
      exact (Except.ok.inj hpart).symm
  | some s =>
      have hmem : ("status", s.toJson) ∈ t.toJson.members := by
        simp [toJson, Json.members, Json.optional, hstatus]
      have hobject : s.toJson ≠ .null := object_ne_null _
      rw [find_of_mem t.nodup_toJson hmem, Option.getD_some, readOptional_of_ne_null _ hobject] at hpart
      obtain ⟨s', hs', hsame⟩ := map_eq_ok_iff.1 hpart
      rw [← hsame, Status.eq_of_read_toJson hs']
      rfl

end TopicOperator
