import TopicOperator.Proofs.Json.FreeForm
import TopicOperator.Proofs.Topic.ReadBack

/-!
# Written parts of a topic

Parameters, specifications and metadata are read as they were written, with times cut to seconds, as
far as they can be written at all: counters of metadata have 64 bits, and the fields in a history are
some value with room enough around it.
-/

namespace TopicOperator

open Json Json.Draft Json.Draft.RecordKind

namespace Json

variable {x : Number.Binary64}

@[simp] theorem reals_null : Json.null.reals = [] := rfl

@[simp] theorem reals_bool (b : Bool) : (Json.bool b).reals = [] := rfl

@[simp] theorem reals_integer (n : Int) : (integer n).reals = [] := rfl

@[simp] theorem reals_text (s : String) : (Json.text s).reals = [] := rfl

@[simp] theorem mem_reals_list {items : List Json} :
    x ∈ (Json.list items).reals ↔ ∃ item ∈ items, x ∈ item.reals := by
  show x ∈ itemReals items ↔ _
  induction items with
  | nil => simp [itemReals]
  | cons item rest ih => simp [itemReals, ih]

@[simp] theorem mem_reals_object {members : List (String × Json)} :
    x ∈ (Json.object members).reals ↔ ∃ m ∈ members, x ∈ m.2.reals := by
  show x ∈ memberReals members ↔ _
  induction members with
  | nil => simp [memberReals]
  | cons m rest ih =>
      obtain ⟨name, value⟩ := m
      simp [memberReals, ih]

theorem mem_optional {α : Type} {name : String} {encode : α → Json} {o : Option α}
    {m : String × Json} : m ∈ optional name encode o ↔ ∃ a ∈ o, m = (name, encode a) := by
  cases o <;> simp [optional]

theorem sublist_optional {α : Type} {name : String} {encode : α → Json} {o : Option α}
    {rest : List (String × Json)} {others : List String} (h : (names rest).Sublist others) :
    (names (optional name encode o ++ rest)).Sublist (name :: others) := by
  rw [names_append]
  exact (names_optional_sublist name encode o).append h

end Json

namespace Parameters

theorem not_mem_reals_toJson (p : Parameters) (x : Number.Binary64) : x ∉ p.toJson.reals := by
  simp [toJson, TextMap.toJson, mem_optional, or_and_right, exists_or]

theorem nodup_toJson (p : Parameters) : (names p.toJson.members).Nodup := by
  have hnames : (names p.toJson.members).Sublist (shape.fields.map (·.name)) := by
    simp only [toJson, Json.members, List.append_assoc, names_cons]
    refine .cons_cons _ ?_
    iterate 6 refine sublist_optional ?_
    exact names_optional_sublist _ _ _
  exact hnames.nodup (by decide)

/-- Parameters are read as they were written. -/
theorem read_toJson (p : Parameters) : reader (.ofJson p.toJson) = .ok p := by
  have htext (o : Option String) : ∀ s ∈ o, Reads (readText "a string") (.text s) s :=
    fun s _ => reads_text _ s
  have hflag (o : Option Bool) : ∀ b ∈ o, Reads readBool (.bool b) b := fun b _ => reads_bool b
  have hcomplete : shape.Complete p.toJson.members := by
    simp [Complete, shape, requiredField, optionalField, toJson, Json.members, names]
  refine (read_object_iff p.nodup_toJson).2 ⟨?_, hcomplete⟩
  simp only [toJson, Json.members, List.append_assoc]
  refine .known rfl rfl ?_
  refine .append (fills_given rfl rfl (htext p.deliveryPolicy) rfl) ?_
  refine .append (fills_given rfl rfl (htext p.displayName) rfl) ?_
  refine .append (fills_given rfl rfl (htext p.policy) rfl) ?_
  refine .append (fills_given rfl rfl (hflag p.fifoTopic) rfl) ?_
  refine .append (fills_given rfl rfl (hflag p.contentBasedDeduplication) rfl) ?_
  refine .append (fills_given rfl rfl (htext p.kmsMasterKeyId) rfl) ?_
  exact fills_given rfl rfl (fun map _ => reads_map map) rfl

end Parameters

namespace Spec

theorem not_mem_reals_toJson (s : Spec) (x : Number.Binary64) : x ∉ s.toJson.reals := by
  simp [toJson, Parameters.not_mem_reals_toJson]

/-- A specification is read as it was written. -/
theorem read_toJson (s : Spec) : reader (.ofJson s.toJson) = .ok s := by
  have hnames : (names s.toJson.members).Nodup := by simp [toJson, Json.members, names]
  have hcomplete : shape.Complete s.toJson.members := by
    simp [Complete, shape, requiredField, toJson, Json.members, names]
  refine (read_object_iff hnames).2 ⟨?_, hcomplete⟩
  exact slot_forProvider.fills_single s.forProvider.read_toJson _

end Spec

namespace OwnerReference

theorem not_mem_reals_toJson (o : OwnerReference) (x : Number.Binary64) : x ∉ o.toJson.reals := by
  simp [toJson, mem_optional, or_and_right, exists_or]

theorem nodup_toJson (o : OwnerReference) : (names o.toJson.members).Nodup := by
  have hnames : (names o.toJson.members).Sublist (shape.fields.map (·.name)) := by
    simp only [toJson, Json.members, List.append_assoc, names_cons]
    refine .cons_cons _ ?_
    iterate 2 refine sublist_optional ?_
    exact .refl _
  exact hnames.nodup (by decide)

/-- An owner is read as it was written. -/
theorem read_toJson (o : OwnerReference) : shape.read (.ofJson o.toJson) = .ok o := by
  have hflag (o : Option Bool) : ∀ b ∈ o, Reads readBool (.bool b) b := fun b _ => reads_bool b
  have hcomplete : shape.Complete o.toJson.members := by
    simp [Complete, shape, optionalField]
  refine (read_object_iff o.nodup_toJson).2 ⟨?_, hcomplete⟩
  simp only [toJson, Json.members, List.append_assoc]
  refine .known rfl rfl ?_
  refine .append (fills_given rfl rfl (hflag o.blockOwnerDeletion) rfl) ?_
  refine .append (fills_given rfl rfl (hflag o.controller) rfl) ?_
  exact .known rfl rfl (.known rfl rfl (.known rfl rfl (.nil _)))

end OwnerReference

theorem Instant.reads_toJson {t : Instant} (h : t.IsLegible) :
    Reads reader t.toJson t.toSecond :=
  ⟨nofun, read_toJson h⟩

theorem Instant.toJson_toSecond (t : Instant) : t.toSecond.toJson = t.toJson := by
  simp only [toJson, write, toSecond, seconds_ofSeconds]

namespace FieldHistory

/-- A history with its time cut to the second. -/
def toSecond (h : FieldHistory) : FieldHistory :=
  { h with time := h.time.map Instant.toSecond }

/-- A history whose fields can be read where so many lists and objects are open around it. -/
def IsHeld (depth : Nat) (h : FieldHistory) : Prop :=
  ∀ value ∈ h.fields, value ≠ .null ∧ value.IsTidy (fieldsRoom depth)

theorem mem_reals_toJson {h : FieldHistory} {x : Number.Binary64} :
    x ∈ h.toJson.reals ↔ ∃ value ∈ h.fields, x ∈ value.reals := by
  simp [toJson, mem_optional, Instant.toJson, or_and_right, exists_or]

theorem toJson_toSecond (h : FieldHistory) : h.toSecond.toJson = h.toJson := by
  cases htime : h.time <;> simp [toJson, toSecond, htime, Json.optional, Instant.toJson_toSecond]

theorem nodup_toJson (h : FieldHistory) : (names h.toJson.members).Nodup := by
  have hnames : (names h.toJson.members).Sublist ((shape 0).fields.map (·.name)) := by
    simp only [toJson, Json.members, List.append_assoc]
    iterate 6 refine sublist_optional ?_
    exact names_optional_sublist _ _ _
  exact hnames.nodup (by decide)

/-- A history is read as it was written, with its time cut to the second. -/
theorem read_toJson {depth : Nat} {h : FieldHistory} (hheld : h.IsHeld depth)
    (htime : ∀ t ∈ h.time, t.IsLegible) (hreals : ∀ x ∈ h.toJson.reals, Lasts x) :
    (shape depth).read (.ofJson h.toJson) = .ok h.toSecond := by
  have htext (o : Option String) : ∀ s ∈ o, Reads (readText "a string") (.text s) s :=
    fun s _ => reads_text _ s
  have hfields : ∀ value ∈ h.fields, Reads (readAny (fieldsRoom depth)) (id value) value :=
    fun value hvalue => ⟨(hheld value hvalue).1, readAny_ofJson _ value (hheld value hvalue).2
      fun x hx => hreals x (mem_reals_toJson.2 ⟨value, hvalue, hx⟩)⟩
  have hcomplete : (shape depth).Complete h.toJson.members := by
    simp [Complete, shape, optionalField]
  refine (read_object_iff h.nodup_toJson).2 ⟨?_, hcomplete⟩
  simp only [toJson, Json.members, List.append_assoc]
  refine .append (fills_given rfl rfl (htext h.apiVersion) rfl) ?_
  refine .append (fills_given rfl rfl (htext h.fieldsType) rfl) ?_
  refine .append (fills_given rfl rfl hfields rfl) ?_
  refine .append (fills_given rfl rfl (htext h.manager) rfl) ?_
  refine .append (fills_given rfl rfl (htext h.operation) rfl) ?_
  refine .append (fills_given rfl rfl (htext h.subresource) rfl) ?_
  exact fills_as rfl rfl (fun t ht => Instant.reads_toJson (htime t ht)) rfl

end FieldHistory

namespace Metadata

/-- Metadata with their times cut to the second. -/
def toSecond (m : Metadata) : Metadata :=
  { m with
    creationTimestamp := m.creationTimestamp.map Instant.toSecond
    deletionTimestamp := m.deletionTimestamp.map Instant.toSecond
    managedFields := m.managedFields.map (·.map FieldHistory.toSecond) }

/-- The histories of the fields of an object. -/
def histories (m : Metadata) : List FieldHistory := m.managedFields.getD []

/-- The times that metadata tell. -/
def times (m : Metadata) : List Instant :=
  m.creationTimestamp.toList ++ m.deletionTimestamp.toList ++
    m.histories.flatMap fun h => h.time.toList

/-- Metadata whose counters have 64 bits and whose histories can be read where so many lists and
objects are open around them. -/
structure IsHeld (depth : Nat) (m : Metadata) : Prop where
  deletionGracePeriodSeconds : ∀ n ∈ m.deletionGracePeriodSeconds, Observation.IsWord n
  generation : ∀ n ∈ m.generation, Observation.IsWord n
  histories : ∀ h ∈ m.histories, h.IsHeld (depth + 2)

theorem mem_reals_toJson {m : Metadata} {x : Number.Binary64} :
    x ∈ m.toJson.reals ↔ ∃ h ∈ m.histories, x ∈ h.toJson.reals := by
  cases hfields : m.managedFields <;>
    simp [toJson, histories, textList, TextMap.toJson, mem_optional, Instant.toJson, or_and_right,
      exists_or, hfields, OwnerReference.not_mem_reals_toJson]

theorem nodup_toJson (m : Metadata) : (names m.toJson.members).Nodup := by
  have hnames : (names m.toJson.members).Sublist ((shape 0).fields.map (·.name)) := by
    simp only [toJson, Json.members, List.append_assoc]
    iterate 14 refine sublist_optional ?_
    exact names_optional_sublist _ _ _
  exact hnames.nodup (by decide)

theorem toJson_toSecond (m : Metadata) : m.toSecond.toJson = m.toJson := by
  cases hcreation : m.creationTimestamp <;> cases hdeletion : m.deletionTimestamp <;>
    cases hfields : m.managedFields <;>
    simp [toJson, toSecond, hcreation, hdeletion, hfields, Json.optional,
      Instant.toJson_toSecond, FieldHistory.toJson_toSecond]

/-- Metadata are read as they were written, with their times cut to the second. -/
theorem read_toJson {depth : Nat} {m : Metadata} (hheld : m.IsHeld depth)
    (htimes : ∀ t ∈ m.times, t.IsLegible) (hreals : ∀ x ∈ m.toJson.reals, Lasts x) :
    (shape depth).read (.ofJson m.toJson) = .ok m.toSecond := by
  have htext (o : Option String) : ∀ s ∈ o, Reads (readText "a string") (.text s) s :=
    fun s _ => reads_text _ s
  have hmap (o : Option (TextMap String)) : ∀ map ∈ o, Reads readMap map.toJson map :=
    fun map _ => reads_map map
  have hword (o : Option Int) (ho : ∀ n ∈ o, Observation.IsWord n) :
      ∀ n ∈ o, Reads readInteger (.integer n) n :=
    fun n hn => reads_integer (ho n hn).1 (ho n hn).2
  have htime (o : Option Instant) (ho : ∀ t ∈ o, t ∈ m.times) :
      ∀ t ∈ o, Reads Instant.reader t.toJson t.toSecond :=
    fun t ht => Instant.reads_toJson (htimes t (ho t ht))
  have hhistories : ∀ hs ∈ m.managedFields, Reads (readList (FieldHistory.shape (depth + 2)).read)
      (.list (hs.map FieldHistory.toJson)) (hs.map FieldHistory.toSecond) := by
    intro hs hfields
    have hmem {h : FieldHistory} (h' : h ∈ hs) : h ∈ m.histories := by
      rwa [histories, Option.mem_def.1 hfields]
    refine reads_list fun h h' => FieldHistory.read_toJson (hheld.histories h (hmem h')) ?_ ?_
    · exact fun t ht => htimes t (by simpa [times] using .inr (.inr ⟨h, hmem h', ht⟩))
    · exact fun x hx => hreals x (mem_reals_toJson.2 ⟨h, hmem h', hx⟩)
  have howners : ∀ owners ∈ m.ownerReferences, Reads (readList OwnerReference.shape.read)
      (.list (owners.map OwnerReference.toJson)) owners := by
    intro owners _
    have hlist : Reads (readList OwnerReference.shape.read) (.list (owners.map OwnerReference.toJson))
        (owners.map id) := reads_list fun o _ => o.read_toJson
    rwa [List.map_id] at hlist
  have htexts : ∀ texts ∈ m.finalizers,
      Reads (readList (readText "a string")) (textList texts) texts :=
    fun texts _ => ⟨nofun, readTexts_iff.2 rfl⟩
  have hcomplete : (shape depth).Complete m.toJson.members := by
    simp [Complete, shape, optionalField]
  refine (read_object_iff m.nodup_toJson).2 ⟨?_, hcomplete⟩
  simp only [toJson, Json.members, List.append_assoc]
  -- The parts fill their fields in the order in which they are written.
  refine .append (fills_given rfl rfl (hmap m.annotations) rfl) ?_
  refine .append (fills_as rfl rfl (htime m.creationTimestamp (by simp +contextual [times])) rfl) ?_
  refine .append (fills_given rfl rfl (hword _ hheld.deletionGracePeriodSeconds) rfl) ?_
  refine .append (fills_as rfl rfl (htime m.deletionTimestamp (by simp +contextual [times])) rfl) ?_
  refine .append (fills_given rfl rfl htexts rfl) ?_
  refine .append (fills_given rfl rfl (htext m.generateName) rfl) ?_
  refine .append (fills_given rfl rfl (hword _ hheld.generation) rfl) ?_
  refine .append (fills_given rfl rfl (hmap m.labels) rfl) ?_
  refine .append (fills_as rfl rfl hhistories rfl) ?_
  refine .append (fills_given rfl rfl (htext m.name) rfl) ?_
  refine .append (fills_given rfl rfl (htext m.namespaceName) rfl) ?_
  refine .append (fills_given rfl rfl howners rfl) ?_
  refine .append (fills_given rfl rfl (htext m.resourceVersion) rfl) ?_
  refine .append (fills_given rfl rfl (htext m.selfLink) rfl) ?_
  exact fills_given rfl rfl (htext m.uid) rfl

end Metadata

end TopicOperator
