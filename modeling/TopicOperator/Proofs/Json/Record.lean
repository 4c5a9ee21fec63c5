import TopicOperator.Json.Reading
import TopicOperator.Proofs.Json.Members

/-!
# Records read from members

Which record the members of an object fill, and how the record changes when a merge patch changes a
member.  A part of a record is filled by the field of one name alone, so a changed member changes that
part and no other.
-/

namespace TopicOperator.Json.Draft

mutual

/-- The draft of a value holds no fault. -/
theorem skim_ofJson : ∀ value : Json, (ofJson value).skim = none
  | .null => rfl
  | .bool _ => rfl
  | .number (.integer _) => rfl
  | .number (.real _) => rfl
  | .text _ => rfl
  | .list items => by
      show (skimItems (ofItems items)).or none = none
      rw [skimItems_ofItems items]
      rfl
  | .object members => by
      show (skimMembers (ofMembers members)).or none = none
      rw [skimMembers_ofMembers members]
      rfl

theorem skimItems_ofItems : ∀ items : List Json, skimItems (ofItems items) = none
  | [] => rfl
  | item :: rest => by
      rw [ofItems, skimItems, skim_ofJson item, skimItems_ofItems rest]
      rfl

theorem skimMembers_ofMembers :
    ∀ members : List (String × Json), skimMembers (ofMembers members) = none
  | [] => rfl
  | (_, value) :: rest => by
      rw [ofMembers, skimMembers, skim_ofJson value, skimMembers_ofMembers rest]
      rfl

end

theorem bind_eq_ok_iff {ε α β : Type} {x : Except ε α} {next : α → Except ε β} {b : β} :
    x.bind next = .ok b ↔ ∃ a, x = .ok a ∧ next a = .ok b := by
  cases x with
  | error e => exact ⟨nofun, fun ⟨_, h, _⟩ => nomatch h⟩
  | ok a => exact ⟨fun h => ⟨a, rfl, h⟩, fun ⟨_, ha, h⟩ => Except.ok.inj ha ▸ h⟩

theorem mismatch_ne_ok {α : Type} (d : Draft) (expected : String) (a : α) :
    d.mismatch expected ≠ .ok a := by
  unfold mismatch
  cases d.describe with
  | ok found => nofun
  | error e => nofun

theorem map_eq_ok_iff {ε α β : Type} {x : Except ε α} {f : α → β} {b : β} :
    x.map f = .ok b ↔ ∃ a, x = .ok a ∧ f a = b := by
  cases x with
  | error e => exact ⟨nofun, fun ⟨_, h, _⟩ => nomatch h⟩
  | ok a => exact ⟨fun h => ⟨a, rfl, Except.ok.inj h⟩, fun ⟨_, ha, h⟩ => Except.ok.inj ha ▸ h ▸ rfl⟩

namespace RecordKind

variable {σ α : Type} {kind : RecordKind σ}

/-- The field of a name. -/
def field? (kind : RecordKind σ) (name : String) : Option (Field σ) :=
  kind.fields.find? (·.name == name)

theorem field?_isSome {field : Field σ} (h : field ∈ kind.fields) :
    (kind.field? field.name).isSome = true := by
  rw [field?, List.find?_isSome]
  exact ⟨field, h, beq_self_eq_true _⟩

theorem mem_of_field? {name : String} {field : Field σ} (h : kind.field? name = some field) :
    field ∈ kind.fields ∧ field.name = name :=
  ⟨List.mem_of_find?_eq_some h, by simpa using List.find?_some h⟩

/-- Members turn one record into another, field by field.  Members that are no fields do nothing. -/
inductive Fills (kind : RecordKind σ) : List (String × Json) → σ → σ → Prop
  | nil (r : σ) : Fills kind [] r r
  | unknown {name : String} {value : Json} {rest : List (String × Json)} {start r : σ} :
      kind.field? name = none → Fills kind rest start r →
      Fills kind ((name, value) :: rest) start r
  | known {name : String} {value : Json} {rest : List (String × Json)} {start r : σ}
      {field : Field σ} {update : σ → σ} :
      kind.field? name = some field → field.read (.ofJson value) = .ok update →
      Fills kind rest (update start) r → Fills kind ((name, value) :: rest) start r

/-- No required field is missing. -/
def Complete (kind : RecordKind σ) (members : List (String × Json)) : Prop :=
  ∀ field ∈ kind.fields, field.presence = .required → field.name ∈ names members

theorem readMembers_unknown {name : String} (h : kind.field? name = none) (value : Json)
    (rest : List (String × Json)) (met : List String) (start : σ) :
    kind.readMembers (ofMembers ((name, value) :: rest)) met start =
      kind.readMembers (ofMembers rest) met start := by
  rw [field?] at h
  -- The value is only skimmed, and a value that is complete passes that.
  simp only [ofMembers, readMembers, readWording, Wording.read, bind, Except.bind, h, skim_ofJson]
  rfl

theorem readMembers_known {name : String} {field : Field σ} (h : kind.field? name = some field)
    (value : Json) (rest : List (String × Json)) (met : List String) (start : σ) :
    kind.readMembers (ofMembers ((name, value) :: rest)) met start =
      if kind.strict && met.contains name then .error ⟨.duplicateField name, 0⟩
      else (field.read (.ofJson value)).bind fun update =>
        kind.readMembers (ofMembers rest) (name :: met) (update start) := by
  rw [field?] at h
  simp only [ofMembers, readMembers, readWording, Wording.read, bind, Except.bind, h]

/-- What reading members yields is what they fill, and the fields that they name have been met. -/
theorem fills_of_readMembers {members : List (String × Json)} {met after : List String}
    {start r : σ} (h : kind.readMembers (ofMembers members) met start = .ok (after, r)) :
    kind.Fills members start r ∧
      ∀ name, name ∈ after ↔ name ∈ met ∨ name ∈ names members ∧ (kind.field? name).isSome := by
  induction members generalizing met start with
  | nil =>
      obtain ⟨rfl, rfl⟩ := Prod.mk.inj (Except.ok.inj h)
      exact ⟨.nil _, fun name => by simp [names]⟩
  | cons m rest ih =>
      obtain ⟨name, value⟩ := m
      cases hfield : kind.field? name with
      | none =>
          rw [readMembers_unknown hfield] at h
          obtain ⟨hfills, hmet⟩ := ih h
          refine ⟨.unknown hfield hfills, fun other => ?_⟩
          rw [hmet]
          by_cases heq : other = name
          · simp [heq, hfield]
          · simp [names, heq]
      | some field =>
          rw [readMembers_known hfield] at h
          split at h
          · cases h
          · cases hread : field.read (.ofJson value) with
            | error e =>
                rw [hread] at h
                cases h
            | ok update =>
                rw [hread] at h
                obtain ⟨hfills, hmet⟩ := ih h
                refine ⟨.known hfield hread hfills, fun other => ?_⟩
                rw [hmet]
                by_cases heq : other = name
                · simp [heq, names, hfield]
                · simp [names, heq]

/-- Members that name no field twice are read as they fill. -/
theorem readMembers_of_fills {members : List (String × Json)} {start r : σ}
    (h : kind.Fills members start r) {met : List String} (hnames : (names members).Nodup)
    (hfresh : ∀ name ∈ names members, name ∉ met) :
    ∃ after, kind.readMembers (ofMembers members) met start = .ok (after, r) := by
  induction h generalizing met with
  | nil r => exact ⟨met, rfl⟩
  | unknown hfield _ ih =>
      rw [readMembers_unknown hfield]
      exact ih (List.nodup_cons.1 hnames).2 fun n hn => hfresh n (List.mem_cons_of_mem _ hn)
  | @known name value rest start r field update hfield hread _ ih =>
      have hnot : met.contains name = false := by
        simpa using hfresh name List.mem_cons_self
      rw [readMembers_known hfield, hnot, Bool.and_false, hread]
      apply ih (List.nodup_cons.1 hnames).2
      intro n hn hmem
      rcases List.mem_cons.1 hmem with rfl | hmem
      · exact (List.nodup_cons.1 hnames).1 hn
      · exact hfresh n (List.mem_cons_of_mem _ hn) hmem

theorem missing?_eq_none_iff {met : List String} :
    kind.missing? met = none ↔
      ∀ field ∈ kind.fields, field.presence = .required → field.name ∈ met := by
  simp [missing?]

/-- What is read of an object once its members are read: the record, if the names that were met are
enough. -/
def finish (kind : RecordKind σ) (found : List String × σ) : Except Flaw σ :=
  match kind.missing? found.1 with
  | some name => .error ⟨.missingField name, 0⟩
  | none => .ok found.2

theorem read_object (members : List (String × Json)) :
    kind.read (.ofJson (.object members)) =
      (kind.readMembers (ofMembers members) [] kind.blank).bind kind.finish :=
  rfl

/-- Members that are read alike, whatever was read before. -/
def ReadsAlike (kind : RecordKind σ) (first second : List (String × Json)) : Prop :=
  ∀ met start,
    kind.readMembers (ofMembers first) met start = kind.readMembers (ofMembers second) met start

namespace ReadsAlike

variable {first second : List (String × Json)}

theorem refl (kind : RecordKind σ) (members : List (String × Json)) :
    kind.ReadsAlike members members := fun _ _ => rfl

theorem cons {name : String} {value other : Json}
    (hread : ∀ field, kind.field? name = some field →
      field.read (.ofJson value) = field.read (.ofJson other))
    (h : kind.ReadsAlike first second) :
    kind.ReadsAlike ((name, value) :: first) ((name, other) :: second) := by
  intro met start
  cases hfield : kind.field? name with
  | none =>
      rw [readMembers_unknown hfield, readMembers_unknown hfield]
      exact h met start
  | some field =>
      rw [readMembers_known hfield, readMembers_known hfield, hread field hfield]
      simp only [h _ _]

/-- Members that are no fields are passed over. -/
theorem unknowns {others : List (String × Json)} (hunknown : ∀ m ∈ others, kind.field? m.1 = none)
    (members : List (String × Json)) : kind.ReadsAlike (others ++ members) members := by
  induction others with
  | nil => exact .refl kind members
  | cons m others ih =>
      intro met start
      rw [List.cons_append, readMembers_unknown (hunknown m List.mem_cons_self)]
      exact ih (fun n hn => hunknown n (List.mem_cons_of_mem _ hn)) met start

/-- Members that are read alike make the same record. -/
theorem read_eq (h : kind.ReadsAlike first second) :
    kind.read (.ofJson (.object first)) = kind.read (.ofJson (.object second)) := by
  rw [read_object, read_object, h]

end ReadsAlike

/-- A patch that names all fields leaves nothing of the record that it is merged into, whatever that
was. -/
theorem read_mergePatch {changes : List (String × Json)} (hnames : (names changes).Nodup)
    (hfields : ∀ field ∈ kind.fields, field.name ∈ names changes) (target : Json) :
    kind.read (.ofJson (mergePatch target (.object changes))) =
      kind.read (.ofJson (.object (merged target.members changes))) := by
  have hunknown : ∀ m ∈ withoutAll (names changes) target.members, kind.field? m.1 = none := by
    intro m hm
    have hother : m.1 ∉ names changes := of_decide_eq_true (List.mem_filter.1 hm).2
    rw [field?, List.find?_eq_none]
    intro field hfield hname
    exact hother (beq_iff_eq.1 hname ▸ hfields field hfield)
  rw [mergePatch, mergeMembers_eq hnames]
  exact (ReadsAlike.unknowns hunknown _).read_eq

/-- A record is read from an object whose members fill it and name all required fields. -/
theorem read_object_iff {members : List (String × Json)} (hnames : (names members).Nodup) {r : σ} :
    kind.read (.ofJson (.object members)) = .ok r ↔
      kind.Fills members kind.blank r ∧ kind.Complete members := by
  constructor
  · intro h
    cases hmembers : kind.readMembers (ofMembers members) [] kind.blank with
    | error e =>
        rw [read_object, hmembers] at h
        cases h
    | ok result =>
        obtain ⟨met, record⟩ := result
        obtain ⟨hfills, hmet⟩ := fills_of_readMembers hmembers
        rw [read_object, hmembers] at h
        cases hmissing : kind.missing? met with
        | some name =>
            simp only [Except.bind, finish, hmissing] at h
            cases h
        | none =>
            simp only [Except.bind, finish, hmissing] at h
            obtain rfl := Except.ok.inj h
            refine ⟨hfills, fun field hfield hrequired => ?_⟩
            have hin := missing?_eq_none_iff.1 hmissing field hfield hrequired
            rcases (hmet field.name).1 hin with hnil | hname
            · cases hnil
            · exact hname.1
  · rintro ⟨hfills, hcomplete⟩
    have hfresh : ∀ name ∈ names members, name ∉ ([] : List String) := fun _ _ => List.not_mem_nil
    obtain ⟨met, hmembers⟩ := readMembers_of_fills hfills hnames hfresh
    have hmet := (fills_of_readMembers hmembers).2
    -- Every required name is one of a member, and these have all been met.
    have hmissing : kind.missing? met = none := by
      rw [missing?_eq_none_iff]
      intro field hfield hrequired
      rw [hmet]
      exact .inr ⟨hcomplete field hfield hrequired, field?_isSome hfield⟩
    rw [read_object, hmembers]
    simp only [Except.bind, finish, hmissing]

/-- The members of a value that is read fill some record: the one that is read, or the blank one if the
value is no object.  A record that is given as a list has no members. -/
theorem exists_fills_members {value : Json} (hdistinct : value.Distinct)
    (h : ∃ r, kind.read (.ofJson value) = .ok r) :
    ∃ r, kind.Fills value.members kind.blank r ∧
      (kind.read (.ofJson value) = .ok r ∨ r = kind.blank ∧ ∀ members, value ≠ .object members) := by
  cases value with
  | object members =>
      obtain ⟨r, hread⟩ := h
      exact ⟨r, ((read_object_iff hdistinct.1).1 hread).1, .inl hread⟩
  | null | bool | number | text | list => exact ⟨kind.blank, .nil _, .inr ⟨rfl, nofun⟩⟩

theorem Fills.append {first second : List (String × Json)} {start middle r : σ}
    (hfirst : kind.Fills first start middle) (hsecond : kind.Fills second middle r) :
    kind.Fills (first ++ second) start r := by
  induction hfirst with
  | nil => exact hsecond
  | unknown hfield _ ih => exact .unknown hfield (ih hsecond)
  | known hfield hread _ ih => exact .known hfield hread (ih hsecond)

/-- A member that is set removes no required field. -/
theorem complete_put {members : List (String × Json)} (h : kind.Complete members) (name : String)
    (value : Json) : kind.Complete (put name value members) :=
  fun field hfield hrequired => mem_names_put.2 (.inr (h field hfield hrequired))

section Invariant

-- What holds of the blank record and is kept by each field holds of the record that is read, be it from
-- an object or from a list.
variable {P : σ → Prop} (hfields : ∀ field ∈ kind.fields, ∀ d update, field.read d = .ok update →
  ∀ r, P r → P (update r))

include hfields

theorem invariant_readMembers {members : List (Name × Draft)} {met after : List String} {start r : σ}
    (hstart : P start) (h : kind.readMembers members met start = .ok (after, r)) : P r := by
  induction members generalizing met start with
  | nil =>
      obtain ⟨-, rfl⟩ := Prod.mk.inj (Except.ok.inj h)
      exact hstart
  | cons m rest ih =>
      obtain ⟨name, value⟩ := m
      obtain ⟨word, -, h⟩ := bind_eq_ok_iff.1 h
      split at h
      · obtain ⟨-, -, h⟩ := bind_eq_ok_iff.1 h
        exact ih hstart h
      · rename_i field hfield
        split at h
        · cases h
        · obtain ⟨update, hread, h⟩ := bind_eq_ok_iff.1 h
          exact ih (hfields field (mem_of_field? hfield).1 value update hread start hstart) h

theorem invariant_readFields {ending : Option Break} {stop : Nat} {fields : List (Field σ)}
    (hsub : ∀ field ∈ fields, field ∈ kind.fields) {items : List Draft} {position : Nat} {start r : σ}
    (hstart : P start) (h : kind.readFields ending stop fields items position start = .ok r) :
    P r := by
  induction fields generalizing items position start with
  | nil =>
      cases items with
      | nil =>
          obtain ⟨-, -, h⟩ := bind_eq_ok_iff.1 h
          exact Except.ok.inj h ▸ hstart
      | cons item rest => cases h
  | cons field fields ih =>
      have hrest : ∀ f ∈ fields, f ∈ kind.fields := fun f hf => hsub f (List.mem_cons_of_mem _ hf)
      cases items with
      | nil =>
          obtain ⟨-, -, h⟩ := bind_eq_ok_iff.1 h
          split at h
          · exact ih hrest hstart h
          · cases h
      | cons item items =>
          obtain ⟨update, hread, h⟩ := bind_eq_ok_iff.1 h
          exact ih hrest (hfields field (hsub field List.mem_cons_self) item update hread start hstart) h

theorem invariant_read (hblank : P kind.blank) {d : Draft} {r : σ} (h : kind.read d = .ok r) :
    P r := by
  cases d with
  | object members ending extent =>
      obtain ⟨⟨met, record⟩, hmembers, h⟩ := bind_eq_ok_iff.1 h
      obtain ⟨-, -, h⟩ := bind_eq_ok_iff.1 h
      have hrecord := invariant_readMembers hfields hblank hmembers
      split at h
      · cases h
      · exact Except.ok.inj h ▸ hrecord
  | list items ending extent =>
      change (if kind.strict then _ else _) = _ at h
      split at h
      · exact invariant_readFields hfields (fun _ hf => hf) hblank h
      · cases h
  | null | bool | cut | missing => cases h
  | number | text => exact absurd h (mismatch_ne_ok _ _ _)

end Invariant

/-- A field whose updates have nothing to do with some part of the record. -/
def Leaves (field : Field σ) (set : α → σ → σ) : Prop :=
  ∀ d update, field.read d = .ok update → ∀ a r, update (set a r) = set a (update r)

theorem leaves_of_map {β : Type} {set : α → σ → σ} {name : String} {presence : Presence}
    {reader : Reader β} {put : β → σ → σ} (h : ∀ b a r, put b (set a r) = set a (put b r)) :
    Leaves ⟨name, presence, fun d => (reader d).map put⟩ set := by
  intro d update hread a r
  change (reader d).map put = .ok update at hread
  cases hb : reader d with
  | error e =>
      rw [hb] at hread
      cases hread
  | ok b =>
      rw [hb] at hread
      obtain rfl := Except.ok.inj hread
      exact h b a r

/-- How a part is taken from a record and put into one fit together. -/
structure IsPart (get : σ → α) (set : α → σ → σ) : Prop where
  get_set : ∀ a r, get (set a r) = a
  set_get : ∀ r, set (get r) r = r
  set_set : ∀ a b r, set a (set b r) = set a r

/-- A part of a record that one field fills, and how the value of this field is read. -/
structure Slot (kind : RecordKind σ) (name : String) (reader : Reader α) (get : σ → α)
    (set : α → σ → σ) : Prop where
  field : ∃ presence, kind.field? name = some ⟨name, presence, fun d => (reader d).map set⟩
  apart : ∀ field ∈ kind.fields, field.name = name ∨ Leaves field set
  laws : IsPart get set

namespace Slot

variable {name : String} {reader : Reader α} {get : σ → α} {set : α → σ → σ}
  {members : List (String × Json)} {start r : σ}

theorem update_set (slot : kind.Slot name reader get set) {other : String} {field : Field σ}
    (hfield : kind.field? other = some field) (hother : other ≠ name) {d : Draft} {update : σ → σ}
    (hread : field.read d = .ok update) (a : α) (r : σ) : update (set a r) = set a (update r) := by
  obtain ⟨hmem, hname⟩ := mem_of_field? hfield
  rcases slot.apart field hmem with heq | hapart
  · exact absurd (hname.symm.trans heq) hother
  · exact hapart d update hread a r

theorem get_update (slot : kind.Slot name reader get set) {other : String} {field : Field σ}
    (hfield : kind.field? other = some field) (hother : other ≠ name) {d : Draft} {update : σ → σ}
    (hread : field.read d = .ok update) (r : σ) : get (update r) = get r := by
  have h := slot.update_set hfield hother hread (get r) r
  rw [slot.laws.set_get] at h
  rw [h, slot.laws.get_set]

/-- The field of the part reads a value and puts it into the record. -/
theorem update_eq (slot : kind.Slot name reader get set) {field : Field σ}
    (hfield : kind.field? name = some field) {d : Draft} {update : σ → σ}
    (hread : field.read d = .ok update) : ∃ a, reader d = .ok a ∧ update = set a := by
  obtain ⟨presence, hslot⟩ := slot.field
  obtain rfl := Option.some.inj (hfield.symm.trans hslot)
  change (reader d).map set = .ok update at hread
  cases ha : reader d with
  | error e =>
      rw [ha] at hread
      cases hread
  | ok a =>
      rw [ha] at hread
      exact ⟨a, rfl, (Except.ok.inj hread).symm⟩

theorem fills_single (slot : kind.Slot name reader get set) {value : Json} {a : α}
    (hread : reader (.ofJson value) = .ok a) (r : σ) :
    kind.Fills [(name, value)] r (set a r) := by
  obtain ⟨presence, hfield⟩ := slot.field
  refine .known hfield ?_ (.nil _)
  show (reader (.ofJson value)).map set = .ok (set a)
  rw [hread]
  rfl

/-- Without its member, a part stays as it was at the start. -/
theorem fills_without (slot : kind.Slot name reader get set) (h : kind.Fills members start r)
    (a : α) : kind.Fills (without name members) (set a start) (set a r) := by
  obtain ⟨presence, hslot⟩ := slot.field
  induction h with
  | nil => exact .nil _
  | @unknown other value rest start r hfield _ ih =>
      have hother : other ≠ name := by
        intro heq
        rw [heq, hslot] at hfield
        cases hfield
      rw [without_cons_of_ne hother]
      exact .unknown hfield ih
  | @known other value rest start r field update hfield hread _ ih =>
      by_cases hother : other = name
      · subst hother
        obtain ⟨b, -, rfl⟩ := slot.update_eq hfield hread
        -- What this member put would be set again, so it can be left out.
        rw [slot.laws.set_set] at ih
        rw [without_cons_self]
        exact ih
      · rw [without_cons_of_ne hother]
        refine .known hfield hread ?_
        rw [slot.update_set hfield hother hread]
        exact ih

/-- A member that is set fills its part, whatever filled it before. -/
theorem fills_put (slot : kind.Slot name reader get set) (h : kind.Fills members start r)
    {value : Json} {a : α} (hread : reader (.ofJson value) = .ok a) :
    kind.Fills (put name value members) start (set a r) := by
  -- The member comes behind all others, which fill as if it had not been there.
  have hwithout := slot.fills_without h (get start)
  have hput := slot.fills_single hread (set (get start) r)
  rw [slot.laws.set_get] at hwithout
  rw [slot.laws.set_set] at hput
  exact hwithout.append hput

theorem get_of_find_none (slot : kind.Slot name reader get set) (h : kind.Fills members start r)
    (hfind : find name members = none) : get r = get start := by
  induction h with
  | nil => rfl
  | @unknown other value rest start r hfield _ ih =>
      rw [find] at hfind
      split at hfind
      · cases hfind
      · exact ih hfind
  | @known other value rest start r field update hfield hread _ ih =>
      rw [find] at hfind
      split at hfind
      · cases hfind
      · rename_i hother
        rw [ih hfind, slot.get_update hfield hother hread]

theorem read_of_find_some (slot : kind.Slot name reader get set) (h : kind.Fills members start r)
    (hnames : (names members).Nodup) {value : Json} (hfind : find name members = some value) :
    reader (.ofJson value) = .ok (get r) := by
  obtain ⟨presence, hslot⟩ := slot.field
  induction h with
  | nil => cases hfind
  | @unknown other first rest start r hfield _ ih =>
      have hother : other ≠ name := by
        intro heq
        rw [heq, hslot] at hfield
        cases hfield
      rw [find, if_neg hother] at hfind
      exact ih (List.nodup_cons.1 hnames).2 hfind
  | @known other first rest start r field update hfield hread hrest ih =>
      by_cases hother : other = name
      · subst hother
        rw [find, if_pos rfl] at hfind
        obtain rfl := Option.some.inj hfind
        obtain ⟨a, ha, rfl⟩ := slot.update_eq hfield hread
        -- The name does not come again, so the part keeps this value.
        have hlast := find_eq_none_iff.2 (List.nodup_cons.1 hnames).1
        rw [slot.get_of_find_none hrest hlast, slot.laws.get_set]
        exact ha
      · rw [find, if_neg hother] at hfind
        exact ih (List.nodup_cons.1 hnames).2 hfind

/-- What a member says can be read. -/
theorem read_of_mem (slot : kind.Slot name reader get set) (h : kind.Fills members start r)
    (hnames : (names members).Nodup) {value : Json} (hmem : (name, value) ∈ members) :
    reader (.ofJson value) = .ok (get r) :=
  slot.read_of_find_some h hnames (find_of_mem hnames hmem)

/-- What a member says can be read, unless there is none. -/
theorem null_or_read (slot : kind.Slot name reader get set) (h : kind.Fills members start r)
    (hnames : (names members).Nodup) :
    (find name members).getD .null = .null ∨
      reader (.ofJson ((find name members).getD .null)) = .ok (get r) := by
  cases hfind : find name members with
  | none => exact .inl rfl
  | some value => exact .inr (slot.read_of_find_some h hnames hfind)

/-- A patch that changes the member of a part to something that can be read sets the part. -/
theorem fills_change (slot : kind.Slot name reader get set) (h : kind.Fills members start r)
    {change : Json} (hchange : change ≠ .null) {a : α}
    (hread : reader (.ofJson (mergePatch ((find name members).getD .null) change)) = .ok a) :
    kind.Fills (changeMember members name change) start (set a r) := by
  rw [changeMember_of_ne_null hchange]
  exact slot.fills_put h hread

/-- A record that is read from an object, after a member of it was set. -/
theorem read_put (slot : kind.Slot name reader get set) (hnames : (names members).Nodup)
    (h : kind.read (.ofJson (.object members)) = .ok r) {value : Json} {a : α}
    (hread : reader (.ofJson value) = .ok a) :
    kind.read (.ofJson (.object (put name value members))) = .ok (set a r) := by
  obtain ⟨hfills, hcomplete⟩ := (read_object_iff hnames).1 h
  exact (read_object_iff (nodup_names_put hnames)).2
    ⟨slot.fills_put hfills hread, complete_put hcomplete name value⟩

/-- A record that is read from an object, after a patch of a member that can be read. -/
theorem read_change (slot : kind.Slot name reader get set) (hnames : (names members).Nodup)
    (h : kind.read (.ofJson (.object members)) = .ok r) {change : Json} (hchange : change ≠ .null)
    {a : α} (hread : reader (.ofJson (mergePatch ((find name members).getD .null) change)) = .ok a) :
    kind.read (.ofJson (.object (changeMember members name change))) = .ok (set a r) := by
  rw [changeMember_of_ne_null hchange]
  exact slot.read_put hnames h hread

end Slot

/-- What a member that may be left out says, also where it is left out or null. -/
theorem Slot.read_getD_find {name : String} {reader : Reader α} {get : σ → Option α}
    {set : Option α → σ → σ} (slot : kind.Slot name (readOptional reader) get set)
    {members : List (String × Json)} {start r : σ} (hstart : get start = none)
    (h : kind.Fills members start r) (hnames : (names members).Nodup) :
    readOptional reader (.ofJson ((find name members).getD .null)) = .ok (get r) := by
  cases hfind : find name members with
  | none =>
      rw [slot.get_of_find_none h hfind, hstart]
      rfl
  | some value => exact slot.read_of_find_some h hnames hfind

/-- A written form that is read as some value in place of any other one. -/
def Settles (reader : Reader α) (written : Json) (a : α) : Prop :=
  written ≠ .null ∧ ∀ target, reader (.ofJson (mergePatch target written)) = .ok a

namespace Slot

variable {name : String} {reader : Reader (Option α)} {get : σ → Option α}
  {set : Option α → σ → σ} {members : List (String × Json)} {start r : σ} {encode : α → Json}

/-- A member that is written unless there is no value fills its part. -/
theorem fills_written (slot : kind.Slot name reader get set) (hstart : get start = none)
    {β : Type} (write : β → Json) (value : β → α) (o : Option β)
    (h : ∀ b ∈ o, reader (.ofJson (write b)) = .ok (some (value b))) :
    kind.Fills (Json.optional name write o) start (set (o.map value) start) := by
  cases o with
  | none =>
      rw [Option.map_none, ← hstart, slot.laws.set_get]
      exact .nil _
  | some b => exact slot.fills_single (h b rfl) start

/-- A patch with a member that may be left out sets the part if the member is there. -/
theorem fills_optional (slot : kind.Slot name reader get set) (h : kind.Fills members start r)
    (value : Option α) (hencode : ∀ a ∈ value, Settles reader (encode a) (some a)) :
    kind.Fills (mergeMembers members (Json.optional name encode value)) start
      (set (value.or (get r)) r) := by
  cases value with
  | none =>
      rw [Option.none_or, slot.laws.set_get]
      exact h
  | some a =>
      obtain ⟨hne, hread⟩ := hencode a rfl
      exact slot.fills_change h hne (hread _)

end Slot

end RecordKind

end TopicOperator.Json.Draft
