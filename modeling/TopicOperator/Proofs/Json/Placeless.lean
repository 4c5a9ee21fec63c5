import TopicOperator.Proofs.Json.Record

/-!
# Drafts without their places

A draft tells where its parts stand in the document, but only for messages: what is read of a draft,
if anything, is what is read of the draft without its places.  So a value that is read from a document
may be found by reading any document that differs from it in its blanks alone.
-/

namespace TopicOperator.Json.Draft

variable {α β : Type}

mutual

/-- A draft without the places of its parts. -/
def bare : Draft → Draft
  | null _ => null {}
  | bool b _ => bool b {}
  | number literal _ => number literal {}
  | text wording _ => text wording {}
  | list items ending _ => list (bareItems items) ending {}
  | object members ending _ => object (bareMembers members) ending {}
  | cut start broken => cut start broken
  | missing broken => missing broken

/-- Items without the places of their parts. -/
def bareItems : List Draft → List Draft
  | [] => []
  | item :: rest => bare item :: bareItems rest

/-- Members without the places of their parts. -/
def bareMembers : List (Name × Draft) → List (Name × Draft)
  | [] => []
  | (name, value) :: rest => ({ wording := name.wording }, bare value) :: bareMembers rest

end

mutual

@[simp] theorem skim_bare : ∀ d : Draft, d.bare.skim = d.skim
  | null _ | bool _ _ | number _ _ | text _ _ | cut _ _ | missing _ => rfl
  | list items ending _ => by simp [bare, skim, skimItems_bareItems items]
  | object members ending _ => by simp [bare, skim, skimMembers_bareMembers members]

@[simp] theorem skimItems_bareItems :
    ∀ items : List Draft, skimItems (bareItems items) = skimItems items
  | [] => rfl
  | item :: rest => by simp [bareItems, skimItems, skim_bare item, skimItems_bareItems rest]

@[simp] theorem skimMembers_bareMembers :
    ∀ members : List (Name × Draft), skimMembers (bareMembers members) = skimMembers members
  | [] => rfl
  | (name, value) :: rest => by
      simp [bareMembers, skimMembers, skim_bare value, skimMembers_bareMembers rest]

end

theorem isEmpty_bareMembers (members : List (Name × Draft)) :
    (bareMembers members).isEmpty = members.isEmpty := by
  cases members <;> rfl

theorem toOption_eq_some_iff {ε : Type} {x : Except ε α} {a : α} :
    x.toOption = some a ↔ x = .ok a := by
  cases x <;> simp [Except.toOption]

/-- Two outcomes yield the same value, or none both. -/
def Agree {ε : Type} (x y : Except ε α) : Prop := x.toOption = y.toOption

namespace Agree

variable {ε : Type} {x y : Except ε α}

@[refl] theorem refl (x : Except ε α) : Agree x x := rfl

theorem bind (h : Agree x y) {f g : α → Except ε β} (hnext : ∀ a, Agree (f a) (g a)) :
    Agree (x >>= f) (y >>= g) := by
  cases x with
  | error e =>
      cases y with
      | error e' => rfl
      | ok b => cases h
  | ok a =>
      cases y with
      | error e' => cases h
      | ok b =>
          obtain rfl := Option.some.inj h
          exact hnext a

theorem bind_left (h : Agree x y) (f : α → Except ε β) : Agree (x >>= f) (y >>= f) :=
  h.bind fun _ => rfl

theorem map (h : Agree x y) (f : α → β) : Agree (x.map f) (y.map f) := by
  cases x with
  | error e =>
      cases y with
      | error e' => rfl
      | ok b => cases h
  | ok a =>
      cases y with
      | error e' => cases h
      | ok b =>
          obtain rfl := Option.some.inj h
          rfl

theorem eq_ok_iff (h : Agree x y) {a : α} : x = .ok a ↔ y = .ok a := by
  rw [← toOption_eq_some_iff, h, toOption_eq_some_iff]

end Agree

theorem agree_mismatch (d d' : Draft) (expected expected' : String) :
    Agree (d.mismatch expected : Except Flaw α) (d'.mismatch expected') := by
  have hnone (d : Draft) (expected : String) :
      (d.mismatch expected : Except Flaw α).toOption = none := by
    unfold mismatch
    cases d.describe <;> rfl
  rw [Agree, hnone, hnone]

/-- A reader that finds the same value wherever the parts of a draft stand. -/
def Placeless (reader : Reader α) : Prop :=
  ∀ d : Draft, Agree (reader d.bare) (reader d)

theorem placeless_readText (expected : String) : Placeless (readText expected) := by
  intro d
  cases d with
  | number => exact agree_mismatch _ _ _ _
  | null | bool | text | list | object | cut | missing => rfl

theorem placeless_readBool : Placeless readBool := by
  intro d
  cases d with
  | number | text => exact agree_mismatch _ _ _ _
  | null | bool | list | object | cut | missing => rfl

theorem agree_readNumber (literal : Literal) (extent extent' : Extent) :
    Agree (readNumber literal extent) (readNumber literal extent') := by
  unfold readNumber
  cases literal.value? <;> rfl

theorem placeless_readInteger : Placeless readInteger := by
  intro d
  cases d with
  | number literal extent =>
      refine (agree_readNumber literal {} extent).bind fun n => ?_
      cases n with
      | integer n =>
          dsimp only
          split <;> rfl
      | real x => rfl
  | text => exact agree_mismatch _ _ _ _
  | null | bool | list | object | cut | missing => rfl

theorem placeless_readOptional {reader : Reader α} (h : Placeless reader) :
    Placeless (readOptional reader) := by
  intro d
  cases d with
  | null extent => rfl
  | bool | number | text | list | object | cut | missing => exact (h _).map some

theorem agree_readItems {reader : Reader α} (h : Placeless reader) (items : List Draft) :
    Agree (readItems reader (bareItems items)) (readItems reader items) := by
  induction items with
  | nil => rfl
  | cons item rest ih => exact (h item).bind fun first => ih.bind_left _

theorem placeless_readList {reader : Reader α} (h : Placeless reader) :
    Placeless (readList reader) := by
  intro d
  cases d with
  | list items ending extent => exact (agree_readItems h items).bind_left _
  | number | text => exact agree_mismatch _ _ _ _
  | null | bool | object | cut | missing => rfl

theorem agree_readEntries (members : List (Name × Draft)) :
    Agree (readEntries (bareMembers members)) (readEntries members) := by
  induction members with
  | nil => rfl
  | cons m rest ih =>
      obtain ⟨name, value⟩ := m
      refine (Agree.refl (readWording name.wording)).bind fun word => ?_
      exact (placeless_readText _ value).bind fun s => ih.bind_left _

theorem placeless_readMap : Placeless readMap := by
  intro d
  cases d with
  | object members ending extent => exact (agree_readEntries members).bind_left _
  | number | text => exact agree_mismatch _ _ _ _
  | null | bool | list | cut | missing => rfl

theorem agree_readName (known : List (String × α)) (name : String) (stop stop' : Nat) :
    Agree (readName known name stop) (readName known name stop') := by
  unfold readName
  split <;> rfl

theorem agree_checkSingle (ending : Option Break) (place place' : Nat) :
    Agree (checkSingle ending place) (checkSingle ending place') := by
  cases ending with
  | none => rfl
  | some broken =>
      unfold checkSingle
      dsimp only
      split <;> rfl

theorem placeless_readVariant (known : List (String × α)) : Placeless (readVariant known) := by
  intro d
  cases d with
  | text wording extent =>
      exact (Agree.refl (readWording wording)).bind fun name => agree_readName known name _ _
  | object members ending extent =>
      cases members with
      | nil => cases ending <;> rfl
      | cons m more =>
          obtain ⟨name, value⟩ := m
          refine (Agree.refl (readWording name.wording)).bind fun word => ?_
          refine (agree_readName known word _ _).bind fun variant => ?_
          cases value with
          | null extent =>
              simp only [bare, isEmpty_bareMembers]
              split
              · exact (agree_checkSingle ending _ _).bind_left _
              · rfl
          | bool | number | text | list | object | cut | missing => exact agree_mismatch _ _ _ _
  | null | bool | number | list | cut | missing => rfl

namespace RecordKind

variable {σ : Type} {kind : RecordKind σ}

/-- A record whose fields are all read without regard to places. -/
def IsPlaceless (kind : RecordKind σ) : Prop :=
  ∀ field ∈ kind.fields, Placeless field.read

theorem agree_readMembers (h : kind.IsPlaceless) (members : List (Name × Draft)) (met : List String)
    (start : σ) :
    Agree (kind.readMembers (bareMembers members) met start) (kind.readMembers members met start) := by
  induction members generalizing met start with
  | nil => rfl
  | cons m rest ih =>
      obtain ⟨name, value⟩ := m
      refine (Agree.refl (readWording name.wording)).bind fun word => ?_
      dsimp only
      split
      · rw [skim_bare]
        exact (Agree.refl (check value.skim)).bind fun _ => ih _ _
      · rename_i field hfield
        split
        · rfl
        · exact (h field (List.mem_of_find?_eq_some hfield) value).bind fun update => ih _ _

theorem agree_readFields (ending : Option Break) (stop stop' : Nat) {fields : List (Field σ)}
    (h : ∀ field ∈ fields, Placeless field.read) (items : List Draft) (position : Nat) (start : σ) :
    Agree (kind.readFields ending stop fields (bareItems items) position start)
      (kind.readFields ending stop' fields items position start) := by
  induction fields generalizing items position start with
  | nil => cases items <;> rfl
  | cons field fields ih =>
      obtain ⟨hfield, hrest⟩ := List.forall_mem_cons.1 h
      cases items with
      | nil =>
          refine (Agree.refl (checkEnding ending)).bind fun _ => ?_
          split
          · exact ih hrest [] _ _
          · rfl
      | cons item items => exact (hfield item).bind fun update => ih hrest items _ _

theorem placeless_read (h : kind.IsPlaceless) : Placeless kind.read := by
  intro d
  cases d with
  | object members ending extent =>
      refine (agree_readMembers h members [] kind.blank).bind fun found => ?_
      refine (Agree.refl (checkEnding ending)).bind fun _ => ?_
      dsimp only
      split <;> rfl
  | list items ending extent =>
      unfold read bare
      dsimp only
      split
      · exact agree_readFields ending _ _ h items 0 kind.blank
      · rfl
  | number | text => exact agree_mismatch _ _ _ _
  | null | bool | cut | missing => rfl

theorem placeless_map {reader : Reader α} (h : Placeless reader) (set : α → σ → σ) :
    Placeless fun d => (reader d).map set :=
  fun d => (h d).map set

end RecordKind

mutual

theorem agree_readAny :
    ∀ (room : Nat) (d : Draft), Agree (readAny room d.bare) (readAny room d)
  | _, null _ | _, bool _ _ | _, cut _ _ | _, missing _ => rfl
  | _, number literal extent => by
      exact (agree_readNumber literal {} extent).bind_left _
  | _, text wording _ => by
      exact (Agree.refl (readWording wording)).bind_left _
  | room, list items ending extent => by
      simp only [bare, readAny]
      split
      · rfl
      · exact (agree_readAnyItems (room - 1) items).bind_left _
  | room, object members ending extent => by
      simp only [bare, readAny]
      split
      · rfl
      · exact (agree_readAnyMembers (room - 1) members).bind_left _

theorem agree_readAnyItems : ∀ (room : Nat) (items : List Draft),
    Agree (readAnyItems room (bareItems items)) (readAnyItems room items)
  | _, [] => rfl
  | room, item :: rest =>
      (agree_readAny room item).bind fun _ => (agree_readAnyItems room rest).bind_left _

theorem agree_readAnyMembers : ∀ (room : Nat) (members : List (Name × Draft)),
    Agree (readAnyMembers room (bareMembers members)) (readAnyMembers room members)
  | _, [] => rfl
  | room, (name, value) :: rest =>
      (Agree.refl (readWording name.wording)).bind fun _ =>
        (agree_readAny room value).bind fun _ => (agree_readAnyMembers room rest).bind_left _

end

theorem placeless_readAny (room : Nat) : Placeless (readAny room) :=
  agree_readAny room

end TopicOperator.Json.Draft
