import TopicOperator.Proofs.Json.Record
import TopicOperator.Proofs.Number.Decimal
import TopicOperator.Proofs.TextMap.Keys
import TopicOperator.Topic.Codec

/-!
# Written values read back

Texts, truth values and integers of 64 bits are read as they were written, whatever they replaced.  A
written map that is merged into another one adds its entries to it.
-/

namespace TopicOperator.Json.Draft

/-- A written value that is no null and is read as some value. -/
def Reads {α : Type} (reader : Reader α) (value : Json) (a : α) : Prop :=
  value ≠ .null ∧ reader (.ofJson value) = .ok a

theorem reads_text (expected s : String) : Reads (readText expected) (.text s) s :=
  ⟨nofun, rfl⟩

theorem reads_bool (b : Bool) : Reads readBool (.bool b) b :=
  ⟨nofun, rfl⟩

theorem reads_integer {n : Int} (hleast : Number.int64.least ≤ n)
    (hgreatest : n ≤ Number.int64.greatest) : Reads readInteger (.integer n) n := by
  have hword : Number.int64.greatest ≤ Number.word64.greatest := by decide
  have hvalue := Literal.value?_ofInteger hleast (Int.le_trans hgreatest hword)
  refine ⟨nofun, ?_⟩
  show readInteger (.number (.ofInteger n) {}) = .ok n
  simp only [readInteger, readBetween, readNumber, hvalue, bind, Except.bind, hleast, hgreatest]
  rfl

theorem settles_text (expected s : String) :
    RecordKind.Settles (readOptional (readText expected)) (.text s) (some s) :=
  ⟨nofun, fun _ => rfl⟩

theorem settles_bool (b : Bool) : RecordKind.Settles (readOptional readBool) (.bool b) (some b) :=
  ⟨nofun, fun _ => rfl⟩

theorem settles_integer {n : Int} (hleast : Number.int64.least ≤ n)
    (hgreatest : n ≤ Number.int64.greatest) :
    RecordKind.Settles (readOptional readInteger) (.integer n) (some n) := by
  refine ⟨nofun, fun target => ?_⟩
  show (readInteger (.ofJson (.integer n))).map some = _
  rw [(reads_integer hleast hgreatest).2]
  rfl

theorem readOptional_of_ne_null {α : Type} (reader : Reader α) {value : Json} (h : value ≠ .null) :
    readOptional reader (.ofJson value) = (reader (.ofJson value)).map some := by
  cases value with
  | null => exact absurd rfl h
  | number n =>
      cases n with
      | integer | real => rfl
  | bool | text | list | object => rfl

/-- What may be null is read as nothing where it is null. -/
theorem readOptional_iff {α : Type} {reader : Reader α} {value : Json} {o : Option α} :
    readOptional reader (.ofJson value) = .ok o ↔
      value = .null ∧ o = none ∨
        value ≠ .null ∧ ∃ a, reader (.ofJson value) = .ok a ∧ some a = o := by
  by_cases hnull : value = .null
  · rw [hnull]
    constructor
    · exact fun h => .inl ⟨rfl, (Except.ok.inj h).symm⟩
    · rintro (⟨-, rfl⟩ | ⟨hne, -⟩)
      · rfl
      · exact absurd rfl hne
  · rw [readOptional_of_ne_null reader hnull, map_eq_ok_iff]
    constructor
    · exact fun h => .inr ⟨hnull, h⟩
    · rintro (⟨heq, -⟩ | ⟨-, h⟩)
      · exact absurd heq hnull
      · exact h

/-- What is read of a value that may be null is read of the value. -/
theorem read_of_readOptional {α : Type} {reader : Reader α} {d : Draft} {o : Option α}
    (h : readOptional reader d = .ok o) :
    ∀ a ∈ o, (∀ extent, d ≠ .null extent) ∧ reader d = .ok a := by
  rintro a rfl
  cases d with
  | null extent => cases h
  | bool | number | text | list | object | cut | missing =>
      obtain ⟨b, hread, hb⟩ := map_eq_ok_iff.1 h
      obtain rfl := Option.some.inj hb
      exact ⟨nofun, hread⟩

/-- An integer that was read has 64 bits. -/
theorem bounds_of_readInteger {d : Draft} {n : Int} (h : readInteger d = .ok n) :
    Number.int64.least ≤ n ∧ n ≤ Number.int64.greatest := by
  unfold readInteger readBetween at h
  split at h
  · obtain ⟨number, -, h⟩ := bind_eq_ok_iff.1 h
    cases number with
    | integer m =>
        change (if _ then _ else _) = _ at h
        split at h
        · rename_i hbounds
          exact Except.ok.inj h ▸ hbounds
        · cases h
    | real x => cases h
  · exact absurd h (mismatch_ne_ok _ _ _)

/-- An integer that can be read back is read as it was written. -/
theorem eq_of_readInteger {n m : Int} (h : readInteger (.ofJson (.integer n)) = .ok m) : m = n := by
  change readInteger (.number (.ofInteger n) {}) = .ok m at h
  obtain ⟨number, hnumber, h⟩ := bind_eq_ok_iff.1 h
  cases number with
  | integer found =>
      change (if _ then _ else _) = _ at h
      split at h
      · obtain rfl := Except.ok.inj h
        unfold readNumber at hnumber
        split at hnumber
        · next hvalue => exact Literal.eq_of_value?_ofInteger (Except.ok.inj hnumber ▸ hvalue)
        · cases hnumber
      · cases h
  | real x => cases h

/-- A list is read item by item, where each item is read as its own value. -/
theorem readItems_of_forall {α β : Type} (reader : Reader β) (encode : α → Json) (value : α → β)
    (items : List α) (h : ∀ a ∈ items, reader (.ofJson (encode a)) = .ok (value a)) :
    readItems reader (ofItems (items.map encode)) = .ok (items.map value) := by
  induction items with
  | nil => rfl
  | cons a rest ih =>
      have hfirst := h a List.mem_cons_self
      have hrest := ih fun b hb => h b (List.mem_cons_of_mem _ hb)
      rw [List.map_cons, ofItems, readItems, hfirst, hrest]
      rfl

theorem readList_of_forall {α β : Type} (reader : Reader β) (encode : α → Json) (value : α → β)
    (items : List α) (h : ∀ a ∈ items, reader (.ofJson (encode a)) = .ok (value a)) :
    readList reader (.ofJson (.list (items.map encode))) = .ok (items.map value) := by
  show (readItems reader (ofItems (items.map encode))).bind (fun values => .ok values) = _
  rw [readItems_of_forall reader encode value items h]
  rfl

theorem reads_list {α β : Type} {reader : Reader β} {encode : α → Json} {value : α → β}
    {items : List α} (h : ∀ a ∈ items, reader (.ofJson (encode a)) = .ok (value a)) :
    Reads (readList reader) (.list (items.map encode)) (items.map value) :=
  ⟨nofun, readList_of_forall reader encode value items h⟩

theorem exists_of_readItems {α β : Type} {reader : Reader β} {encode : α → Json} {items : List α}
    {values : List β} (h : readItems reader (ofItems (items.map encode)) = .ok values) :
    ∀ a ∈ items, ∃ b, reader (.ofJson (encode a)) = .ok b := by
  induction items generalizing values with
  | nil => exact fun _ ha => absurd ha List.not_mem_nil
  | cons a rest ih =>
      obtain ⟨b, hfirst, h⟩ := bind_eq_ok_iff.1 h
      obtain ⟨others, hrest, -⟩ := bind_eq_ok_iff.1 h
      exact List.forall_mem_cons.2 ⟨⟨b, hfirst⟩, ih hrest⟩

/-- Where a list can be read, each of its items can. -/
theorem exists_of_readList {α β : Type} {reader : Reader β} {encode : α → Json} {items : List α}
    {values : List β} (h : readList reader (.ofJson (.list (items.map encode))) = .ok values) :
    ∀ a ∈ items, ∃ b, reader (.ofJson (encode a)) = .ok b := by
  obtain ⟨found, h, -⟩ := bind_eq_ok_iff.1 h
  exact exists_of_readItems h

theorem exists_of_mem_readItems {α : Type} {reader : Reader α} {items : List Draft}
    {values : List α} (h : readItems reader items = .ok values) :
    ∀ a ∈ values, ∃ item, reader item = .ok a := by
  induction items generalizing values with
  | nil =>
      obtain rfl := Except.ok.inj h
      exact fun _ ha => absurd ha List.not_mem_nil
  | cons item rest ih =>
      obtain ⟨first, hfirst, h⟩ := bind_eq_ok_iff.1 h
      obtain ⟨others, hothers, h⟩ := bind_eq_ok_iff.1 h
      obtain rfl := Except.ok.inj h
      exact List.forall_mem_cons.2 ⟨⟨item, hfirst⟩, ih hothers⟩

/-- What is in a list that was read was read itself. -/
theorem exists_of_mem_readList {α : Type} {reader : Reader α} {d : Draft} {values : List α}
    (h : readList reader d = .ok values) : ∀ a ∈ values, ∃ item, reader item = .ok a := by
  cases d with
  | list items ending extent =>
      obtain ⟨found, hfound, h⟩ := bind_eq_ok_iff.1 h
      obtain ⟨-, -, h⟩ := bind_eq_ok_iff.1 h
      obtain rfl := Except.ok.inj h
      exact exists_of_mem_readItems hfound
  | number | text => exact absurd h (mismatch_ne_ok _ _ _)
  | null | bool | object | cut | missing => cases h

theorem readText_iff {expected : String} {value : Json} {s : String} :
    readText expected (.ofJson value) = .ok s ↔ value = .text s := by
  cases value with
  | text t => exact ⟨fun h => congrArg _ (Except.ok.inj h), fun h => Json.text.inj h ▸ rfl⟩
  | null | bool | list | object => exact ⟨nofun, nofun⟩
  | number n =>
      refine ⟨fun h => ?_, nofun⟩
      cases n with
      | integer | real => exact absurd h (mismatch_ne_ok _ _ _)

/-- A list of texts is read from the texts. -/
theorem readTexts_iff {expected : String} {value : Json} {texts : List String} :
    readList (readText expected) (.ofJson value) = .ok texts ↔ value = .list (texts.map .text) := by
  have hitems : ∀ {items : List Json} {texts : List String},
      readItems (readText expected) (ofItems items) = .ok texts ↔ items = texts.map .text := by
    intro items texts
    induction items generalizing texts with
    | nil => cases texts <;> simp [ofItems, readItems]
    | cons item rest ih =>
        show ((readText expected (.ofJson item)).bind fun first =>
          (readItems (readText expected) (ofItems rest)).bind fun others => .ok (first :: others)) =
            .ok texts ↔ _
        simp only [bind_eq_ok_iff, readText_iff, ih]
        cases texts with
        | nil => simp
        | cons first others => simp [and_comm]
  cases value with
  | list items =>
      show ((readItems (readText expected) (ofItems items)).bind fun values => .ok values) = _ ↔ _
      simp [bind_eq_ok_iff, hitems]
  | null | bool | text | object => exact ⟨nofun, nofun⟩
  | number n =>
      refine ⟨fun h => ?_, nofun⟩
      cases n with
      | integer | real => exact absurd h (mismatch_ne_ok _ _ _)

/-- The members that entries are written as. -/
def textMembers (entries : List (String × String)) : List (String × Json) :=
  entries.map fun (name, s) => (name, .text s)

theorem readEntries_iff {members : List (String × Json)} {entries : List (String × String)} :
    readEntries (ofMembers members) = .ok entries ↔ members = textMembers entries := by
  induction members generalizing entries with
  | nil =>
      cases entries with
      | nil => exact ⟨fun _ => rfl, fun _ => rfl⟩
      | cons e rest => exact ⟨nofun, nofun⟩
  | cons m rest ih =>
      obtain ⟨name, value⟩ := m
      have hread : readEntries (ofMembers ((name, value) :: rest)) =
          (readText "a string" (.ofJson value)).bind fun s =>
            (readEntries (ofMembers rest)).bind fun others => .ok ((name, s) :: others) := rfl
      rw [hread]
      constructor
      · intro h
        obtain ⟨s, hs, h⟩ := bind_eq_ok_iff.1 h
        obtain ⟨others, hothers, h⟩ := bind_eq_ok_iff.1 h
        obtain rfl := Except.ok.inj h
        rw [readText_iff.1 hs, ih.1 hothers]
        rfl
      · intro h
        cases entries with
        | nil => cases h
        | cons e others =>
            obtain ⟨hfirst, hothers⟩ := List.cons.inj h
            obtain ⟨rfl, rfl⟩ := Prod.mk.inj hfirst
            rw [ih.2 hothers]
            rfl

/-- A map is read from an object of texts. -/
theorem readMap_iff {value : Json} {map : TextMap String} :
    readMap (.ofJson value) = .ok map ↔
      ∃ entries, value = .object (textMembers entries) ∧ map = .ofList entries := by
  constructor
  · intro h
    cases value with
    | object members =>
        change (readEntries (ofMembers members)).bind
          (fun entries => .ok (TextMap.ofList entries)) = .ok map at h
        obtain ⟨entries, hentries, h⟩ := bind_eq_ok_iff.1 h
        exact ⟨entries, congrArg _ (readEntries_iff.1 hentries), (Except.ok.inj h).symm⟩
    | null | bool | text | list => cases h
    | number n =>
        cases n with
        | integer | real => exact absurd h (mismatch_ne_ok _ _ _)
  · rintro ⟨entries, rfl, rfl⟩
    show (readEntries (ofMembers (textMembers entries))).bind
      (fun entries => .ok (TextMap.ofList entries)) = _
    rw [readEntries_iff.2 rfl]
    rfl

theorem reads_map (map : TextMap String) : Reads readMap map.toJson map :=
  ⟨nofun, readMap_iff.2 ⟨map.entries, rfl, (TextMap.ofList_entries map).symm⟩⟩

/-- A text that is put into a map sets the value of its key. -/
theorem readMap_put {members : List (String × Json)} {map : TextMap String}
    (h : readMap (.ofJson (.object members)) = .ok map) (key value : String) :
    readMap (.ofJson (.object (put key (.text value) members))) = .ok (map.insert key value) := by
  obtain ⟨entries, hmembers, rfl⟩ := readMap_iff.1 h
  obtain rfl := Json.object.inj hmembers
  refine readMap_iff.2 ⟨entries.filter (·.1 ≠ key) ++ [(key, value)], ?_, ?_⟩
  · simp only [put, without, textMembers, List.filter_map, List.map_append]
    rfl
  · apply TextMap.ext_get?
    intro other
    have hkeep := TextMap.lookup_filter (fun k => decide (k ≠ key)) entries.reverse other
    simp only [TextMap.get?_ofList, TextMap.get?_insert, List.reverse_append, List.reverse_cons,
      List.reverse_nil, List.nil_append, List.singleton_append, ← List.filter_reverse,
      TextMap.lookup]
    rw [hkeep]
    by_cases hother : other = key
    · simp [hother]
    · simp [hother, Ne.symm hother]

/-- A written map that is merged into another one adds its entries. -/
theorem readMap_mergeMembers {members : List (String × Json)} {map : TextMap String}
    (h : readMap (.ofJson (.object members)) = .ok map) (entries : List (String × String)) :
    readMap (.ofJson (.object (mergeMembers members (textMembers entries)))) =
      .ok (map.insertAll entries) := by
  induction entries generalizing members map with
  | nil => exact h
  | cons e rest ih =>
      obtain ⟨key, value⟩ := e
      show readMap (.ofJson (.object (mergeMembers members ((key, .text value) :: textMembers rest)))) =
        .ok ((map.insert key value).insertAll rest)
      rw [mergeMembers_cons]
      exact ih (readMap_put h key value)

/-- The members of a value that is a map or null are those of the map, or none. -/
theorem readMap_members {value : Json} {map : Option (TextMap String)}
    (h : readOptional readMap (.ofJson value) = .ok map) :
    readMap (.ofJson (.object value.members)) = .ok (map.getD .empty) := by
  rcases readOptional_iff.1 h with ⟨rfl, rfl⟩ | ⟨-, found, hmap, rfl⟩
  · rfl
  · obtain ⟨entries, rfl, rfl⟩ := readMap_iff.1 hmap
    exact hmap

/-- Entries that are merged into a map, or into null, are added to it. -/
theorem readMap_mergePatch {target : Json} {old : Option (TextMap String)}
    (h : readOptional readMap (.ofJson target) = .ok old) (entries : List (String × String)) :
    readOptional readMap (.ofJson (mergePatch target (.object (textMembers entries)))) =
      .ok (some ((old.getD .empty).insertAll entries)) := by
  show (readMap (.ofJson (.object (mergeMembers target.members (textMembers entries))))).map some = _
  rw [readMap_mergeMembers (readMap_members h)]
  rfl

namespace RecordKind

variable {σ : Type} {kind : RecordKind σ}

/-- A record that may not be given as a list is read from an object. -/
theorem isObject_of_read (hstrict : kind.strict = false) {value : Json} {r : σ}
    (h : kind.read (.ofJson value) = .ok r) : ∃ members, value = .object members := by
  cases value with
  | object members => exact ⟨members, rfl⟩
  | list items =>
      change (if kind.strict then _ else _) = _ at h
      rw [hstrict] at h
      cases h
  | null | bool | text => cases h
  | number n =>
      cases n with
      | integer | real => exact absurd h (mismatch_ne_ok _ _ _)

variable {α β : Type} {name : String} {presence : Presence} {reader : Reader α}
  {set : Option α → σ → σ} {start r : σ}

/-- A part that is still unset is filled by what is written of it, if anything is. -/
theorem fills_as (hfield : kind.field? name = some (optionalField name presence reader set))
    (hnone : set none start = start) {encode : β → Json} {value : β → α} {o : Option β}
    (h : ∀ b ∈ o, Reads reader (encode b) (value b)) (hset : set (o.map value) start = r) :
    kind.Fills (optional name encode o) start r := by
  subst hset
  cases o with
  | none =>
      rw [Option.map_none, hnone]
      exact .nil start
  | some b =>
      obtain ⟨hne, hread⟩ := h b rfl
      refine .known hfield ?_ (.nil _)
      show (readOptional reader (.ofJson (encode b))).map set = .ok (set (some (value b)))
      rw [readOptional_of_ne_null reader hne, hread]
      rfl

/-- A part that is still unset is filled by its own value. -/
theorem fills_given (hfield : kind.field? name = some (optionalField name presence reader set))
    (hnone : set none start = start) {encode : α → Json} {o : Option α}
    (h : ∀ a ∈ o, Reads reader (encode a) a) (hset : set o start = r) :
    kind.Fills (optional name encode o) start r :=
  fills_as hfield hnone h (by rwa [Option.map_id'])

end RecordKind

end TopicOperator.Json.Draft
