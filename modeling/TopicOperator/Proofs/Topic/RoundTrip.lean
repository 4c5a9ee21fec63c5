import TopicOperator.Proofs.Topic.WrittenParts

/-!
# Topics written and read again

Reading the text of a topic, or of a part of it, gives back what was written, with its times cut to
seconds; and what was read of any text is written alike from then on.  Three things that a topic can
hold in the history of its fields do not come back: null, which is read as nothing, lists and objects
nested too deep to be read, and floating-point numbers whose own text is read as another number.
-/

namespace TopicOperator

open Json Json.Draft Json.Draft.RecordKind

/-! ### Written forms of whole seconds -/

namespace Condition

theorem not_mem_reals_toJson (c : Condition) (x : Number.Binary64) : x ∉ c.toJson.reals := by
  simp [toJson, Instant.toJson, mem_optional, or_and_right, exists_or]

theorem toJson_toSecond (c : Condition) : c.toSecond.toJson = c.toJson := by
  cases htime : c.lastTransition <;>
    simp [toJson, toSecond, htime, Json.optional, Instant.toJson_toSecond]

end Condition

namespace Observation

theorem not_mem_reals_toJson (o : Observation) (x : Number.Binary64) : x ∉ o.toJson.reals := by
  simp [toJson, mem_optional, or_and_right, exists_or]

end Observation

namespace Status

theorem not_mem_reals_toJson (s : Status) (x : Number.Binary64) : x ∉ s.toJson.reals := by
  simp [toJson, Condition.not_mem_reals_toJson, Observation.not_mem_reals_toJson]

theorem toJson_toSecond (s : Status) : s.toSecond.toJson = s.toJson := by
  simp [toJson, toSecond, Condition.toJson_toSecond]

/-- The times that a status tells. -/
def times (s : Status) : List Instant :=
  s.conditions.flatMap fun c => c.lastTransition.toList

end Status

namespace Topic

/-- A topic with its times cut to the second. -/
def toSecond (t : Topic) : Topic :=
  { t with metadata := t.metadata.toSecond, status := t.status.map Status.toSecond }

/-- The times that a topic tells. -/
def times (t : Topic) : List Instant :=
  t.metadata.times ++ t.status.toList.flatMap Status.times

/-- A topic whose counters have 64 bits and whose histories hold neither null nor what is nested too
deep to be read. -/
structure IsHeld (t : Topic) : Prop where
  metadata : t.metadata.IsHeld 1
  atProvider : ∀ s ∈ t.status, s.atProvider.IsLegible

theorem mem_reals_toJson {t : Topic} {x : Number.Binary64} :
    x ∈ t.toJson.reals ↔ x ∈ t.metadata.toJson.reals := by
  simp [toJson, mem_optional, Spec.not_mem_reals_toJson, Status.not_mem_reals_toJson]

theorem toJson_toSecond (t : Topic) : t.toSecond.toJson = t.toJson := by
  cases hstatus : t.status <;>
    simp [toJson, toSecond, hstatus, Json.optional, Metadata.toJson_toSecond,
      Status.toJson_toSecond]

/-- A topic is read as it was written, with its times cut to seconds. -/
theorem read_toJson {t : Topic} (hheld : t.IsHeld) (htimes : ∀ time ∈ t.times, time.IsLegible)
    (hreals : ∀ x ∈ t.toJson.reals, Lasts x) : reader (.ofJson t.toJson) = .ok t.toSecond := by
  have hmetadata := Metadata.read_toJson hheld.metadata
    (fun time h => htimes time (List.mem_append_left _ h))
    fun x hx => hreals x (mem_reals_toJson.2 hx)
  have hstatus : ∀ s ∈ t.status, Reads Status.reader s.toJson s.toSecond := by
    intro s hs
    refine ⟨nofun, Status.read_toJson ⟨fun c hc time htime => htimes time ?_, hheld.atProvider s hs⟩⟩
    have hmem : time ∈ s.times := List.mem_flatMap.2 ⟨c, hc, Option.mem_toList.2 htime⟩
    exact List.mem_append_right _ (List.mem_flatMap.2 ⟨s, Option.mem_toList.2 hs, hmem⟩)
  have hcomplete : (shape 0).Complete t.toJson.members := by
    simp [Complete, shape, requiredField, optionalField, toJson, Json.members, names]
  refine (read_object_iff t.nodup_toJson).2 ⟨?_, hcomplete⟩
  simp only [toJson, Json.members, List.cons_append, List.nil_append]
  -- Version and kind come first and are no fields of what is read.
  refine .unknown rfl (.unknown rfl ?_)
  refine .append ((slot_metadata 0).fills_single hmetadata _) ?_
  refine .append ((slot_spec 0).fills_single t.spec.read_toJson _) ?_
  exact fills_as rfl rfl hstatus rfl

end Topic

/-! ### Readers that look at no places -/

theorem Instant.placeless_reader : Placeless reader := by
  intro d
  cases d with
  | text wording extent =>
      refine (Agree.refl (readWording wording)).bind fun s => ?_
      cases read? s <;> rfl
  | number => exact agree_mismatch _ _ _ _
  | null | bool | list | object | cut | missing => rfl

theorem Parameters.placeless_reader : Placeless reader := by
  apply placeless_read
  simp [IsPlaceless, shape, requiredField, optionalField, placeless_map, placeless_readOptional,
    placeless_readText, placeless_readBool, placeless_readMap]

theorem Spec.placeless_reader : Placeless reader := by
  apply placeless_read
  simp [IsPlaceless, shape, requiredField, placeless_map, Parameters.placeless_reader]

theorem Observation.placeless_reader : Placeless reader := by
  apply placeless_read
  simp [IsPlaceless, shape, optionalField, placeless_map, placeless_readOptional,
    placeless_readText, placeless_readInteger]

theorem Condition.placeless_reader : Placeless reader := by
  apply placeless_read
  simp [IsPlaceless, shape, requiredField, optionalField, placeless_map, placeless_readOptional,
    placeless_readText, placeless_readVariant, Instant.placeless_reader]

theorem Status.placeless_reader : Placeless reader := by
  apply placeless_read
  simp [IsPlaceless, shape, defaultField, placeless_map, placeless_readList,
    Condition.placeless_reader, Observation.placeless_reader]

theorem OwnerReference.placeless_read : Placeless shape.read := by
  apply RecordKind.placeless_read
  simp [IsPlaceless, shape, optionalField, placeless_map, placeless_readOptional,
    placeless_readText, placeless_readBool]

theorem FieldHistory.placeless_read (depth : Nat) : Placeless (shape depth).read := by
  apply RecordKind.placeless_read
  simp [IsPlaceless, shape, optionalField, placeless_map, placeless_readOptional,
    placeless_readText, Instant.placeless_reader, placeless_readAny]

theorem Metadata.placeless_read (depth : Nat) : Placeless (shape depth).read := by
  have hfinalizers := placeless_readList (placeless_readText "a string")
  have hhistories := placeless_readList (FieldHistory.placeless_read (depth + 2))
  have howners := placeless_readList OwnerReference.placeless_read
  apply RecordKind.placeless_read
  simp [IsPlaceless, shape, optionalField, placeless_map, placeless_readOptional,
    placeless_readText, placeless_readInteger, placeless_readMap, Instant.placeless_reader,
    hfinalizers, hhistories, howners]

theorem Topic.placeless_reader : Placeless reader := by
  apply placeless_read
  simp [IsPlaceless, shape, requiredField, optionalField, placeless_map, placeless_readOptional,
    Metadata.placeless_read, Spec.placeless_reader, Status.placeless_reader]

/-! ### What can be read is held -/

theorem FieldHistory.isHeld_of_read {depth : Nat} {d : Draft} {h : FieldHistory}
    (hread : (shape depth).read d = .ok h) : h.IsHeld depth := by
  refine invariant_read ?_ (P := fun h => h.IsHeld depth) nofun hread
  simp only [shape, optionalField, List.forall_mem_cons, map_eq_ok_iff, forall_exists_index, and_imp]
  refine ⟨?_, ?_, ?fields, ?_, ?_, ?_, ?_, List.forall_mem_nil _⟩
  case fields =>
    rintro d update fields hfields rfl h - value hvalue
    obtain ⟨hne, hread⟩ := read_of_readOptional hfields value hvalue
    exact ⟨ne_null_of_readAny hne hread, isTidy_of_readAny _ d hread⟩
  all_goals
    rintro d update value - rfl h hh
    exact hh

theorem Metadata.isHeld_of_read {depth : Nat} {d : Draft} {m : Metadata}
    (h : (shape depth).read d = .ok m) : m.IsHeld depth := by
  refine invariant_read ?_ (P := fun m => m.IsHeld depth) ⟨nofun, nofun, nofun⟩ h
  simp only [shape, optionalField, List.forall_mem_cons, map_eq_ok_iff, forall_exists_index, and_imp]
  refine ⟨?_, ?_, ?grace, ?_, ?_, ?_, ?generation, ?_, ?histories, ?_, ?_, ?_, ?_, ?_, ?_,
    List.forall_mem_nil _⟩
  case grace =>
    rintro d update grace hgrace rfl m hm
    exact ⟨Observation.isWord_of_readOptional hgrace, hm.generation, hm.histories⟩
  case generation =>
    rintro d update generation hgeneration rfl m hm
    exact ⟨hm.deletionGracePeriodSeconds, Observation.isWord_of_readOptional hgeneration,
      hm.histories⟩
  case histories =>
    rintro d update fields hfields rfl m hm
    refine ⟨hm.deletionGracePeriodSeconds, hm.generation, fun h hh => ?_⟩
    cases fields with
    | none => cases hh
    | some hs =>
        obtain ⟨-, hlist⟩ := read_of_readOptional hfields hs rfl
        obtain ⟨item, hitem⟩ := exists_of_mem_readList hlist h hh
        exact FieldHistory.isHeld_of_read hitem
  -- No other field has to do with these parts.
  all_goals
    rintro d update value - rfl m hm
    exact ⟨hm.deletionGracePeriodSeconds, hm.generation, hm.histories⟩

/-- What is read of a topic is held. -/
theorem Topic.isHeld_of_read {d : Draft} {t : Topic} (h : reader d = .ok t) : t.IsHeld := by
  have hblank : IsHeld (shape 0).blank := ⟨⟨nofun, nofun, nofun⟩, nofun⟩
  refine invariant_read ?_ hblank h
  simp only [shape, requiredField, optionalField, List.forall_mem_cons, map_eq_ok_iff,
    forall_exists_index, and_imp]
  refine ⟨?_, ?_, ?_, List.forall_mem_nil _⟩
  · rintro d update m hm rfl t ht
    exact ⟨Metadata.isHeld_of_read hm, ht.atProvider⟩
  · rintro d update s - rfl t ht
    exact ⟨ht.metadata, ht.atProvider⟩
  · rintro d update status hstatus rfl t ht
    refine ⟨ht.metadata, fun s hs => ?_⟩
    obtain ⟨-, hread⟩ := read_of_readOptional hstatus s hs
    exact Status.isLegible_atProvider_of_read hread

/-! ### Texts written and read again -/

/-- The text that what is read of a text is written as. -/
def Json.rewritten? {α : Type} (reader : Reader α) (toJson : α → Json) (s : String) : Option String :=
  (readDocument reader s).toOption.map fun a => (toJson a).write

theorem Json.rewritten?_eq {α : Type} {reader : Reader α} {toJson : α → Json} {s : String} {a : α}
    (h : readDocument reader s = .ok a) : rewritten? reader toJson s = some (toJson a).write := by
  rw [rewritten?, h]
  rfl

theorem Json.rewritten?_write {α : Type} {reader : Reader α} {toJson : α → Json}
    (hreader : Placeless reader) {value : Json} (hspelled : ∀ x ∈ value.reals, Scan.IsSpelled x) :
    rewritten? reader toJson value.write =
      (reader (.ofJson value)).toOption.map fun a => (toJson a).write := by
  have hagree : (readDocument reader value.write).toOption = (reader (.ofJson value)).toOption :=
    Option.ext fun a => by
      rw [toOption_eq_some_iff, toOption_eq_some_iff, readDocument_write hreader hspelled]
  rw [rewritten?, hagree]

/-- Reading undoes writing for the values of a type that can be held and are legible.  The first part
is about values, the second about texts: what is read is always held, so it need only be legible. -/
structure RoundTrips {α : Type} (reader : Reader α) (toJson : α → Json) (toSecond : α → α)
    (IsHeld IsLegible : α → Prop) : Prop where
  /-- A value whose times are whole seconds is read back from its own text. -/
  read_write : ∀ a, IsHeld a → IsLegible a → toSecond a = a →
    readDocument reader (toJson a).write = .ok a
  /-- What was read of any text is written, read and written again as the same text. -/
  write_read : ∀ s a, readDocument reader s = .ok a → IsLegible a →
    rewritten? reader toJson (toJson a).write = some (toJson a).write

namespace RoundTrips

variable {α : Type} {reader : Reader α} {toJson : α → Json} {toSecond : α → α}
  {IsHeld IsLegible : α → Prop}

/-- It is enough that values are read as they were written up to the cut of their times, which makes
no difference to how they are written. -/
theorem of_read (hreader : Placeless reader)
    (hspelled : ∀ a, IsLegible a → ∀ x ∈ (toJson a).reals, Scan.IsSpelled x)
    (hread : ∀ a, IsHeld a → IsLegible a → reader (.ofJson (toJson a)) = .ok (toSecond a))
    (hcut : ∀ a, toJson (toSecond a) = toJson a)
    (hheld : ∀ d a, reader d = .ok a → IsHeld a) :
    RoundTrips reader toJson toSecond IsHeld IsLegible := by
  have hdocument {a : α} (ha : IsHeld a) (ha' : IsLegible a) :
      readDocument reader (toJson a).write = .ok (toSecond a) :=
    (readDocument_write hreader (hspelled a ha')).2 (hread a ha ha')
  constructor
  · intro a ha ha' hsecond
    rw [hdocument ha ha', hsecond]
  · intro s a h ha'
    have ha : IsHeld a := hheld _ a (readDocument_eq_ok_iff.1 h).1
    rw [rewritten?_eq (hdocument ha ha'), hcut]

end RoundTrips

theorem Parameters.roundTrips :
    RoundTrips reader toJson id (fun _ => True) (fun _ => True) :=
  .of_read placeless_reader (fun p _ x hx => absurd hx (p.not_mem_reals_toJson x))
    (fun p _ _ => p.read_toJson) (fun _ => rfl) fun _ _ _ => True.intro

theorem Spec.roundTrips : RoundTrips reader toJson id (fun _ => True) (fun _ => True) :=
  .of_read placeless_reader (fun s _ x hx => absurd hx (s.not_mem_reals_toJson x))
    (fun s _ _ => s.read_toJson) (fun _ => rfl) fun _ _ _ => True.intro

theorem Observation.roundTrips : RoundTrips reader toJson id IsLegible (fun _ => True) :=
  .of_read placeless_reader (fun o _ x hx => absurd hx (o.not_mem_reals_toJson x))
    (fun _ ho _ => read_toJson ho) (fun _ => rfl) fun _ _ h => isLegible_of_read h

theorem Condition.roundTrips : RoundTrips reader toJson toSecond (fun _ => True) IsLegible :=
  .of_read placeless_reader (fun c _ x hx => absurd hx (c.not_mem_reals_toJson x))
    (fun _ _ hc => read_toJson hc) toJson_toSecond fun _ _ _ => True.intro

theorem Status.roundTrips :
    RoundTrips reader toJson toSecond (fun s => s.atProvider.IsLegible)
      (fun s => ∀ time ∈ s.times, time.IsLegible) := by
  refine .of_read placeless_reader (fun s _ x hx => absurd hx (s.not_mem_reals_toJson x)) ?_
    toJson_toSecond fun _ _ h => isLegible_atProvider_of_read h
  intro s hheld htimes
  refine read_toJson ⟨fun c hc time htime => htimes time ?_, hheld⟩
  exact List.mem_flatMap.2 ⟨c, hc, Option.mem_toList.2 htime⟩

namespace Topic

/-- A topic with legible times and with floating-point numbers that last. -/
structure IsLegible (t : Topic) : Prop where
  times : ∀ time ∈ t.times, time.IsLegible
  reals : ∀ x ∈ t.toJson.reals, Lasts x

theorem roundTrips : RoundTrips reader toJson toSecond IsHeld IsLegible :=
  .of_read placeless_reader (fun _ ht x hx => (ht.reals x hx).isSpelled)
    (fun _ hheld ht => read_toJson hheld ht.times ht.reals) toJson_toSecond
    fun _ _ h => isHeld_of_read h

end Topic

/-- Reading undoes writing for a topic and for each of its parts.  Only metadata and conditions tell
times, only metadata and observations have counters, and only the histories in metadata have values of
any form. -/
theorem reading_undoes_writing :
    RoundTrips Topic.reader Topic.toJson Topic.toSecond Topic.IsHeld Topic.IsLegible ∧
    RoundTrips Spec.reader Spec.toJson id (fun _ => True) (fun _ => True) ∧
    RoundTrips Parameters.reader Parameters.toJson id (fun _ => True) (fun _ => True) ∧
    RoundTrips Observation.reader Observation.toJson id Observation.IsLegible (fun _ => True) ∧
    RoundTrips Status.reader Status.toJson Status.toSecond (fun s => s.atProvider.IsLegible)
      (fun s => ∀ time ∈ s.times, time.IsLegible) ∧
    RoundTrips Condition.reader Condition.toJson Condition.toSecond (fun _ => True)
      Condition.IsLegible :=
  ⟨Topic.roundTrips, Spec.roundTrips, Parameters.roundTrips, Observation.roundTrips,
    Status.roundTrips, Condition.roundTrips⟩

namespace Topic

/-- A topic of which every kind of part is given. -/
def complete : Topic where
  metadata := {
    annotations := some (.ofList [("team", "\"pay\\ments\"")])
    creationTimestamp := some (.ofSeconds (-62167219200))
    finalizers := some ["sns.converge.dev/finalizer"]
    generation := some 9223372036854775807
    managedFields := some [{
      fields := some (.object [("f:spec", .list [.integer 3, .number (.real ⟨false, 2 ^ 52, -54⟩)])])
      time := some (.ofSeconds 253402207200) }]
    name := some "orders" }
  spec := { forProvider := { region := "us-east-1", fifoTopic := some false, tags := some .empty } }
  status := some {
    conditions := [{ Condition.available with lastTransition := some (.ofSeconds 1) }]
    atProvider := { subscriptionsDeleted := some (-9223372036854775808) } }

theorem isHeld_complete : complete.IsHeld := by
  refine ⟨⟨nofun, ?generation, ?histories⟩, ?atProvider⟩
  case generation =>
    rintro n ⟨⟩
    exact ⟨by decide, by decide⟩
  case histories =>
    intro h hh value hvalue
    obtain rfl := List.mem_singleton.1 hh
    obtain rfl := Option.some.inj hvalue
    refine ⟨nofun, by decide, List.pairwise_singleton _ _, ⟨by decide, ?_, True.intro, True.intro⟩,
      True.intro⟩
    exact ⟨by decide, by decide⟩
  case atProvider =>
    rintro s ⟨⟩
    refine ⟨nofun, nofun, ?_⟩
    rintro n ⟨⟩
    exact ⟨by decide, by decide⟩

theorem isLegible_complete : complete.IsLegible := by
  constructor
  · have htimes : complete.times = [.ofSeconds (-62167219200), .ofSeconds 253402207200, .ofSeconds 1] :=
      rfl
    simp [htimes, Instant.IsLegible, Instant.seconds_ofSeconds, Instant.yearZero, Instant.lastSecond]
  · have hreals : complete.toJson.reals = [⟨false, 2 ^ 52, -54⟩] := rfl
    rw [hreals]
    refine List.forall_mem_singleton.2 ?_
    unfold Lasts
    decide +kernel

/-- A topic of which every kind of part is given comes back from its own text, which is written
alike again. -/
theorem reading_undoes_writing_complete :
    complete.IsHeld ∧ complete.IsLegible ∧ complete.toSecond = complete ∧
      readDocument reader complete.toJson.write = .ok complete ∧
      rewritten? reader toJson complete.toJson.write = some complete.toJson.write := by
  have hread := reading_undoes_writing.1.read_write complete isHeld_complete isLegible_complete rfl
  exact ⟨isHeld_complete, isLegible_complete, rfl, hread,
    reading_undoes_writing.1.write_read _ complete hread isLegible_complete⟩

/-- What a topic is written as when its own text has been read. -/
def reread? (t : Topic) : Option String := rewritten? reader toJson t.toJson.write

/-- A topic in the history of whose fields a value stands. -/
def ofFields (fields : Json) : Topic where
  metadata := { managedFields := some [{ fields := some fields }] }
  spec := { forProvider := { region := "us-east-1" } }

/-- A floating-point number near the power of ten with the exponent -24. -/
def tiny (mantissa : Nat) : Number.Binary64 := ⟨false, mantissa, -132⟩

/-- An empty list within so many others. -/
def nest : Nat → Json
  | 0 => .list []
  | n + 1 => .list [nest n]

theorem reals_nest (n : Nat) : (nest n).reals = [] := by
  induction n with
  | zero => rfl
  | succ n ih => simpa [nest, Json.reals, Json.itemReals] using ih

theorem reread?_ofFields {fields : Json} (h : ∀ x ∈ fields.reals, Scan.IsSpelled x) :
    reread? (ofFields fields) =
      (reader (.ofJson (ofFields fields).toJson)).toOption.map (·.toJson.write) := by
  refine rewritten?_write placeless_reader fun x hx => h x ?_
  simpa [mem_reals_toJson, Metadata.mem_reals_toJson, Metadata.histories,
    FieldHistory.mem_reals_toJson, ofFields] using hx

/-- Null, too deep a nesting and a number that is read as its neighbour do not come back.  The two
neighbours are even read as each other, so neither text is ever written the same twice. -/
theorem not_reread?_ofFields : reread? (ofFields .null) ≠ some (ofFields .null).toJson.write ∧
    reread? (ofFields (nest 123)) = none ∧
    reread? (ofFields (.number (.real (tiny 5444517870735015)))) =
      some (ofFields (.number (.real (tiny 5444517870735016)))).toJson.write ∧
    reread? (ofFields (.number (.real (tiny 5444517870735016)))) =
      some (ofFields (.number (.real (tiny 5444517870735015)))).toJson.write ∧
    (ofFields (.number (.real (tiny 5444517870735015)))).toJson.write ≠
      (ofFields (.number (.real (tiny 5444517870735016)))).toJson.write := by
  have hspelled (mantissa : Nat) (h : Scan.IsSpelled (tiny mantissa)) :
      ∀ x ∈ (Json.number (.real (tiny mantissa))).reals, Scan.IsSpelled x :=
    List.forall_mem_singleton.2 h
  refine ⟨?null, ?deep, ?down, ?up, ?texts⟩
  case null =>
    rw [reread?_ofFields (by simp)]
    decide +kernel
  case deep =>
    rw [reread?_ofFields (by simp [reals_nest])]
    decide +kernel
  case down =>
    rw [reread?_ofFields (hspelled _ (.inr (by decide +kernel)))]
    decide +kernel
  case up =>
    rw [reread?_ofFields (hspelled _ (.inr (by decide +kernel)))]
    decide +kernel
  case texts => decide +kernel

end Topic

end TopicOperator
