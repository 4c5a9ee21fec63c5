import TopicOperator.Proofs.Schema.Conformance
import TopicOperator.Proofs.Topic.RoundTrip
import TopicOperator.Topic.Definition

/-!
# Written parts fit the resource definition

What is written of a specification, and of a status, conforms to the schema that the resource
definition holds for it, so the API server keeps all of it.  Any texts will do, and any tags.  The
counters of a status have 64 bits.  Its times have to be date-times, which they are from the year zero
on: of an earlier one a sign and three digits are written for the year.
-/

namespace TopicOperator

open Json Schema

namespace Json

theorem forall_mem_optional {α : Type} {name : String} {encode : α → Json} {o : Option α}
    {P : String × Json → Prop} :
    (∀ m ∈ optional name encode o, P m) ↔ ∀ a ∈ o, P (name, encode a) := by
  cases o <;> simp [optional]

end Json

theorem TextMap.conforms_toJson {note inner : SchemaNote} (map : TextMap String) :
    Conforms (Schema.map note (.text inner)).toJson map.toJson := by
  rw [toJson, conforms_map_iff, List.forall_mem_map]
  exact fun _ _ => conforms_text

theorem Parameters.conforms_toJson (p : Parameters) :
    Conforms Topic.parametersSchema.toJson p.toJson := by
  rw [Topic.parametersSchema, toJson, conforms_record_iff]
  simp only [List.forall_mem_cons, List.forall_mem_append, forall_mem_optional]
  simp [TextMap.lookup, names, Topic.optionalText, Topic.optionalFlag, conforms_text, conforms_flag,
    TextMap.conforms_toJson]

theorem Spec.conforms_toJson (s : Spec) : Conforms Topic.specSchema.toJson s.toJson := by
  rw [Topic.specSchema, toJson, conforms_record_iff]
  simp [TextMap.lookup, names, Parameters.conforms_toJson]

/-- What is written of an observation conforms just if its counters have 64 bits. -/
theorem Observation.conforms_toJson_iff {o : Observation} :
    Conforms Topic.observationSchema.toJson o.toJson ↔ o.IsLegible := by
  have hparts : o.IsLegible ↔ (∀ n ∈ o.subscriptionsConfirmed, IsWord n) ∧
      (∀ n ∈ o.subscriptionsPending, IsWord n) ∧ ∀ n ∈ o.subscriptionsDeleted, IsWord n :=
    ⟨fun h => ⟨h.confirmed, h.pending, h.deleted⟩, fun h => ⟨h.1, h.2.1, h.2.2⟩⟩
  rw [hparts, Topic.observationSchema, toJson, conforms_record_iff]
  simp only [List.forall_mem_append, forall_mem_optional]
  simp [TextMap.lookup, Topic.optionalText, Topic.optionalCounter, conforms_text,
    conforms_counter_iff, IsWord, and_assoc]

/-- What is written of a condition conforms just if its time is written as a date-time. -/
theorem Condition.conforms_toJson_iff {c : Condition} :
    Conforms Topic.conditionSchema.toJson c.toJson ↔
      ∀ t ∈ c.lastTransition, IsDateTime t.write := by
  have hreason : c.reason.name ∈ ConditionReason.named.map Prod.fst := by
    cases c.reason with
    | creating | available | unavailable | deleting | reconcileSuccess | reconcileError => decide
  have hstatus : c.status.name ∈ ConditionStatus.named.map Prod.fst := by
    cases c.status with
    | holds | fails | unknown => decide
  have htype : c.type.name ∈ ConditionType.named.map Prod.fst := by
    cases c.type with
    | ready | synced => decide
  simp only [ConditionReason.named, ConditionStatus.named, ConditionType.named, List.map]
    at hreason hstatus htype
  rw [Topic.conditionSchema, toJson, conforms_record_iff]
  simp only [List.forall_mem_cons, List.forall_mem_append, forall_mem_optional]
  simp [TextMap.lookup, names, Topic.optionalText, conforms_text, conforms_formatted_iff,
    conforms_choice_iff, Instant.toJson, HasFormat, hreason, hstatus, htype]

namespace Status

/-- A status that can be held: its counters have 64 bits, and its times are some that a time stamp can
name. -/
structure IsRepresentable (s : Status) : Prop where
  times : ∀ t ∈ s.times, Instant.firstSecond ≤ t.seconds ∧ t.seconds ≤ Instant.lastSecond
  atProvider : s.atProvider.IsLegible

/-- What is written of a status conforms just if its counters have 64 bits and its times are written
as date-times. -/
theorem conforms_toJson_iff {s : Status} : Conforms Topic.statusSchema.toJson s.toJson ↔
    s.atProvider.IsLegible ∧ ∀ t ∈ s.times, IsDateTime t.write := by
  have htimes : (∀ t ∈ s.times, IsDateTime t.write) ↔
      ∀ c ∈ s.conditions, ∀ t ∈ c.lastTransition, IsDateTime t.write := by
    simp only [times, List.mem_flatMap, Option.mem_toList, forall_exists_index, and_imp]
    exact ⟨fun h c hc t ht => h t c hc ht, fun h t c hc ht => h c hc t ht⟩
  rw [htimes, Topic.statusSchema, toJson, conforms_record_iff]
  simp only [List.forall_mem_cons]
  simp [TextMap.lookup, conforms_list_iff, Condition.conforms_toJson_iff,
    Observation.conforms_toJson_iff, and_comm]

end Status

namespace Topic

/-- The schema of a part of a topic in the resource definition. -/
def definedSchema? (part : String) : Option Json :=
  definitionAt? ("/spec/versions/0/schema/openAPIV3Schema/properties/" ++ part)

/-- A value fits the resource definition as a part of a topic: it conforms to the schema of that part,
and the API server drops nothing of it. -/
def Fits (part : String) (value : Json) : Prop :=
  ∃ schema, definedSchema? part = some schema ∧ Conforms schema value ∧ pruned schema value = value

theorem definedSchema?_spec : definedSchema? "spec" = some specSchema.toJson := rfl

theorem definedSchema?_status : definedSchema? "status" = some statusSchema.toJson := rfl

/-- A value that conforms fits. -/
theorem fits_iff {part : String} {schema value : Json} (hschema : definedSchema? part = some schema) :
    Fits part value ↔ Conforms schema value := by
  constructor
  · rintro ⟨_, hsame, hconforms, -⟩
    exact Option.some.inj (hsame.symm.trans hschema) ▸ hconforms
  · exact fun hconforms => ⟨schema, hschema, hconforms, hconforms.pruned_eq⟩

/-- What is written of a status fits just if none of its times is before the year zero. -/
theorem fits_status_iff {s : Status} (h : s.IsRepresentable) :
    Fits "status" s.toJson ↔ ∀ t ∈ s.times, Instant.yearZero ≤ t.seconds := by
  rw [fits_iff definedSchema?_status, Status.conforms_toJson_iff, and_iff_right h.atProvider]
  refine forall₂_congr fun t ht => ?_
  have hrange := h.times t ht
  calc IsDateTime t.write
    _ ↔ t.IsLegible := (Instant.isLegible_iff_isDateTime.trans (and_iff_right hrange)).symm
    _ ↔ Instant.yearZero ≤ t.seconds := and_iff_left hrange.2

/-- What is written of a specification fits the resource definition, and so does what is written of a
status just if none of its times is before the year zero. -/
theorem written_parts_fit :
    (∀ s : Spec, Fits "spec" s.toJson) ∧
      ∀ s : Status, s.IsRepresentable →
        (Fits "status" s.toJson ↔ ∀ t ∈ s.times, Instant.yearZero ≤ t.seconds) :=
  ⟨fun s => (fits_iff definedSchema?_spec).2 s.conforms_toJson, fun _ => fits_status_iff⟩

/-- A status that names all it can, with the first time and the last one that fit, and with counters at
both ends. -/
def fullStatus : Status where
  conditions :=
    [{ Condition.available with lastTransition := some (.ofSeconds Instant.yearZero) },
      { Condition.reconcileError "boom" with lastTransition := some (.ofSeconds Instant.lastSecond) }]
  atProvider :=
    { topicArn := some "arn:aws:sns:us-east-1:000000000000:orders"
      subscriptionsConfirmed := some Number.int64.greatest
      subscriptionsPending := some 0
      subscriptionsDeleted := some Number.int64.least
      effectiveDeliveryPolicy := some "\x7b\x7d" }

theorem written_parts_fit_full :
    Fits "spec" (Spec.mk { region := "", tags := some (.ofList [("", "")]) }).toJson ∧
      fullStatus.IsRepresentable ∧ Fits "status" fullStatus.toJson := by
  have hcounters : fullStatus.atProvider.IsLegible := by
    constructor
    all_goals
      rintro n ⟨⟩
      exact ⟨by decide, by decide⟩
  have hrepresentable : fullStatus.IsRepresentable := ⟨by decide, hcounters⟩
  have htimes : ∀ t ∈ fullStatus.times, Instant.yearZero ≤ t.seconds := by decide
  exact ⟨written_parts_fit.1 _, hrepresentable, (written_parts_fit.2 _ hrepresentable).2 htimes⟩

/-- A status with a time of the year that is written `-044`. -/
def ancientStatus : Status where
  conditions := [{ Condition.available with lastTransition := some (.ofSeconds (-63549324000)) }]

theorem ancient_status_unfit :
    ancientStatus.IsRepresentable ∧ ¬ Fits "status" ancientStatus.toJson := by
  have hrepresentable : ancientStatus.IsRepresentable := ⟨by decide, Observation.isLegible_empty⟩
  refine ⟨hrepresentable, fun hfits => ?_⟩
  have hlate := (fits_status_iff hrepresentable).1 hfits
  exact absurd hlate (by decide)

end Topic

end TopicOperator
