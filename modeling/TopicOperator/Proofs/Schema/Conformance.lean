import TopicOperator.Proofs.Json.Members
import TopicOperator.Proofs.Time.DateTime
import TopicOperator.Schema.Basic
import TopicOperator.TextMap.Basic

/-!
# Conformance

When a value conforms to a schema document, and what the API server prunes of a value.  Both go by the
document alone, keyword by keyword, and not by what it was written from: a keyword that is not known
here allows nothing, and neither does a format.  Nothing is pruned of a value that conforms.  For the
documents that are written of schemas, conformance is told schema by schema.
-/

namespace TopicOperator

namespace Json

/-- The types that a schema may give a value. -/
@[simp] def typeNames : Json → List String
  | .null => []
  | .bool _ => ["boolean"]
  | .number (.integer _) => ["integer", "number"]
  | .number (.real _) => ["number"]
  | .text _ => ["string"]
  | .list _ => ["array"]
  | .object _ => ["object"]

/-- A value of a format. -/
def HasFormat (value : Json) : String → Prop
  | "int64" => ∃ n, value = .integer n ∧ Number.int64.least ≤ n ∧ n ≤ Number.int64.greatest
  | "date-time" => ∃ s, value = .text s ∧ IsDateTime s
  | _ => False

/-- The keywords of schemas. -/
def keywords : List String :=
  ["additionalProperties", "default", "description", "enum", "format", "items", "nullable",
    "properties", "required", "title", "type"]

/-- A schema allows a value, as far as this does not depend on its parts. -/
structure Allows (schema value : Json) : Prop where
  /-- The schema says nothing that is not looked at here. -/
  known : ∀ key, (schema.get? key).isSome → key ∈ keywords
  type : ∃ name ∈ value.typeNames, schema.get? "type" = some (.text name)
  choice : ∀ choices, schema.get? "enum" = some choices → value ∈ choices.items
  format : ∀ format, schema.get? "format" = some (.text format) → value.HasFormat format
  required : ∀ name, .text name ∈ (schema.get "required").items → (value.get? name).isSome

/-- The schema of a member: its own one, or else the one of all members. -/
def declared? (schema : Json) (name : String) : Option Json :=
  ((schema.get "properties").get? name).or (schema.get? "additionalProperties")

/-- A value without parts. -/
inductive IsScalar : Json → Prop
  | bool (b : Bool) : IsScalar (.bool b)
  | number (n : JsonNumber) : IsScalar (.number n)
  | text (s : String) : IsScalar (.text s)

/-- A value conforms to a schema. -/
inductive Conforms : Json → Json → Prop
  | null {schema : Json} (h : schema.get? "nullable" = some (.bool true)) : Conforms schema .null
  | scalar {schema value : Json} (hscalar : value.IsScalar) (h : Allows schema value) :
      Conforms schema value
  | list {schema : Json} {items : List Json} (h : Allows schema (.list items))
      (hitems : ∀ item ∈ items, Conforms (schema.get "items") item) : Conforms schema (.list items)
  | object {schema : Json} {members : List (String × Json)} (h : Allows schema (.object members))
      (hdeclared : ∀ m ∈ members, (declared? schema m.1).isSome)
      (hmembers : ∀ m ∈ members, ∀ own, declared? schema m.1 = some own → Conforms own m.2) :
      Conforms schema (.object members)

mutual

/-- What is left of a value when members that are not declared are dropped, at any depth. -/
def pruned (schema : Json) : Json → Json
  | .list items => .list (prunedItems (schema.get "items") items)
  | .object members => .object (prunedMembers schema members)
  | .null => .null
  | .bool b => .bool b
  | .number n => .number n
  | .text s => .text s

/-- What is left of items of one schema. -/
def prunedItems (schema : Json) : List Json → List Json
  | [] => []
  | item :: rest => pruned schema item :: prunedItems schema rest

/-- What is left of the members of an object. -/
def prunedMembers (schema : Json) : List (String × Json) → List (String × Json)
  | [] => []
  | (name, value) :: rest =>
      match declared? schema name with
      | some own => (name, pruned own value) :: prunedMembers schema rest
      | none => prunedMembers schema rest

end

theorem prunedItems_eq {schema : Json} {items : List Json}
    (h : ∀ item ∈ items, pruned schema item = item) : prunedItems schema items = items := by
  induction items with
  | nil => rfl
  | cons item rest ih =>
      obtain ⟨hitem, hrest⟩ := List.forall_mem_cons.1 h
      rw [prunedItems, hitem, ih hrest]

theorem prunedMembers_eq {schema : Json} {members : List (String × Json)}
    (hdeclared : ∀ m ∈ members, (declared? schema m.1).isSome)
    (h : ∀ m ∈ members, ∀ own, declared? schema m.1 = some own → pruned own m.2 = m.2) :
    prunedMembers schema members = members := by
  induction members with
  | nil => rfl
  | cons m rest ih =>
      obtain ⟨name, value⟩ := m
      obtain ⟨hfirst, hothers⟩ := List.forall_mem_cons.1 hdeclared
      obtain ⟨hvalue, hrest⟩ := List.forall_mem_cons.1 h
      obtain ⟨own, hown⟩ := Option.isSome_iff_exists.1 hfirst
      simp only [prunedMembers, hown, hvalue own hown, ih hothers hrest]

/-- Nothing is pruned of a value that conforms. -/
theorem Conforms.pruned_eq {schema value : Json} (h : Conforms schema value) :
    pruned schema value = value := by
  induction h with
  | null => rfl
  | scalar hscalar =>
      cases hscalar with
      | bool | number | text => rfl
  | list _ _ ih => rw [pruned, prunedItems_eq ih]
  | object _ hdeclared _ ih => rw [pruned, prunedMembers_eq hdeclared ih]

-- Where a member is not declared it is dropped, here inside of a list.
example :
    pruned (Schema.list {} (.record {} [("region", .text {})] [])).toJson
        (.list [.object [("region", .text "a"), ("zone", .text "b")]]) =
      .list [.object [("region", .text "a")]] :=
  rfl

theorem conforms_iff_allows {schema value : Json} (hscalar : value.IsScalar) :
    Conforms schema value ↔ Allows schema value := by
  refine ⟨fun h => ?_, .scalar hscalar⟩
  cases h with
  | scalar _ h => exact h
  | null | list | object => cases hscalar

theorem conforms_items_iff {schema : Json} {items : List Json} : Conforms schema (.list items) ↔
    Allows schema (.list items) ∧ ∀ item ∈ items, Conforms (schema.get "items") item := by
  refine ⟨fun h => ?_, fun h => .list h.1 h.2⟩
  cases h with
  | scalar hscalar => cases hscalar
  | list h hitems => exact ⟨h, hitems⟩

theorem conforms_members_iff {schema : Json} {members : List (String × Json)} :
    Conforms schema (.object members) ↔ Allows schema (.object members) ∧
      ∀ m ∈ members, ∃ own, declared? schema m.1 = some own ∧ Conforms own m.2 := by
  refine ⟨fun h => ?_, fun ⟨h, hmembers⟩ => .object h (fun m hm => ?_) fun m hm own hown => ?_⟩
  · cases h with
    | scalar hscalar => cases hscalar
    | object h hdeclared hmembers =>
        refine ⟨h, fun m hm => ?_⟩
        obtain ⟨own, hown⟩ := Option.isSome_iff_exists.1 (hdeclared m hm)
        exact ⟨own, hown, hmembers m hm own hown⟩
  · obtain ⟨own, hown, -⟩ := hmembers m hm
    exact Option.isSome_of_eq_some hown
  · obtain ⟨_, hsame, hconforms⟩ := hmembers m hm
    exact Option.some.inj (hsame.symm.trans hown) ▸ hconforms

theorem find_optional {α : Type} (key name : String) (encode : α → Json) (o : Option α) :
    find key (optional name encode o) = if key = name then o.map encode else none := by
  cases o <;> simp [optional, find, eq_comm]

end Json

namespace SchemaKind

open Json

variable {kind : SchemaKind} {note : SchemaNote} {value : Json}

/-- What a schema says under a keyword. -/
@[simp] def said (kind : SchemaKind) (note : SchemaNote) : String → Option Json
  | "additionalProperties" => kind.values
  | "default" => note.standard
  | "description" => note.description.map .text
  | "enum" => if kind.choices = [] then none else some (.list (kind.choices.map .text))
  | "format" => kind.format.map .text
  | "items" => kind.items
  | "nullable" => if note.nullable then some (.bool true) else none
  | "properties" => kind.members
  | "required" => if kind.required = [] then none else some (.list (kind.required.map .text))
  | "title" => note.title.map .text
  | "type" => some (.text kind.name)
  | _ => none

theorem find_textsMember (key name : String) (items : List String) :
    find key (textsMember name items) =
      if key = name then if items = [] then none else some (.list (items.map .text)) else none := by
  cases items <;> simp [textsMember, find, eq_comm]

theorem find_flagMember (key name : String) (holds : Bool) :
    find key (flagMember name holds) =
      if key = name then if holds then some (.bool true) else none else none := by
  cases holds <;> simp [flagMember, find, eq_comm]

/-- The written form of a schema holds under each keyword what the schema says there. -/
theorem get?_toJson (key : String) : (kind.toJson note).get? key = kind.said note key := by
  have htype : find key [("type", Json.text kind.name)] =
      if key = "type" then some (.text kind.name) else none := by
    simp [find, eq_comm]
  unfold said
  split
  all_goals simp [htype, toJson, Json.get?, Json.members, find_append, find_optional,
    find_textsMember, find_flagMember]
  -- Any other keyword is none of those that are written.
  tauto

theorem keyword_of_said {key : String} (h : (kind.said note key).isSome) : key ∈ keywords := by
  unfold said at h
  split at h
  case h_12 => cases h
  all_goals simp [keywords]

theorem get_toJson (key : String) :
    (kind.toJson note).get key = (kind.said note key).getD .null :=
  congrArg (·.getD .null) (get?_toJson key)

theorem items_get_required :
    ((kind.toJson note).get "required").items = kind.required.map .text := by
  rw [get_toJson]
  cases h : kind.required <;> simp [h, Json.items]

/-- What it takes of a value to be allowed by the written form of a schema. -/
theorem allows_toJson_iff : Allows (kind.toJson note) value ↔
    kind.name ∈ value.typeNames ∧ (kind.choices ≠ [] → value ∈ kind.choices.map .text) ∧
      (∀ format ∈ kind.format, value.HasFormat format) ∧
        ∀ name ∈ kind.required, (value.get? name).isSome := by
  have htype : (∃ name ∈ value.typeNames, (kind.toJson note).get? "type" = some (.text name)) ↔
      kind.name ∈ value.typeNames := by
    simp [get?_toJson]
  have hchoice : (∀ choices, (kind.toJson note).get? "enum" = some choices → value ∈ choices.items) ↔
      (kind.choices ≠ [] → value ∈ kind.choices.map .text) := by
    simp [get?_toJson, Json.items]
  have hformat : (∀ format, (kind.toJson note).get? "format" = some (.text format) →
      value.HasFormat format) ↔ ∀ format ∈ kind.format, value.HasFormat format := by
    simp [get?_toJson]
  have hrequired : (∀ name, .text name ∈ ((kind.toJson note).get "required").items →
      (value.get? name).isSome) ↔ ∀ name ∈ kind.required, (value.get? name).isSome := by
    simp [items_get_required]
  rw [← htype, ← hchoice, ← hformat, ← hrequired]
  constructor
  · exact fun h => ⟨h.type, h.choice, h.format, h.required⟩
  · rintro ⟨htype, hchoice, hformat, hrequired⟩
    exact ⟨fun key hkey => keyword_of_said (get?_toJson key ▸ hkey), htype, hchoice, hformat,
      hrequired⟩

end SchemaKind

namespace Schema

open Json

/-- What the written form of a schema says about the kind of values. -/
@[simp] def kind : Schema → SchemaKind
  | text _ => { name := "string" }
  | formatted _ format => { name := "string", format := some format }
  | choice _ choices => { name := "string", choices }
  | flag _ => { name := "boolean" }
  | counter _ => { name := "integer", format := some "int64" }
  | map _ values => { name := "object", values := some values.toJson }
  | list _ items => { name := "array", items := some items.toJson }
  | record _ members required =>
      { name := "object", members := some (.object (membersJson members)), required }

/-- What a schema says besides. -/
@[simp] def note : Schema → SchemaNote
  | text note | formatted note _ | choice note _ | flag note | counter note | map note _
  | list note _ | record note _ _ => note

/-- A schema is written by its kind and its note. -/
theorem toJson_eq (own : Schema) : own.toJson = own.kind.toJson own.note := by
  cases own <;> rw [toJson] <;> rfl

theorem get_toJson (own : Schema) (key : String) :
    own.toJson.get key = (own.kind.said own.note key).getD .null :=
  toJson_eq own ▸ SchemaKind.get_toJson key

variable {note : SchemaNote} {own : Schema} {choices : List String} {s : String} {name : String}
  {members : List (String × Schema)} {required : List String}

/-- What it takes of a value to be allowed by a schema. -/
theorem allows_iff {value : Json} : Allows own.toJson value ↔
    own.kind.name ∈ value.typeNames ∧
      (own.kind.choices ≠ [] → value ∈ own.kind.choices.map .text) ∧
        (∀ format ∈ own.kind.format, value.HasFormat format) ∧
          ∀ name ∈ own.kind.required, (value.get? name).isSome :=
  toJson_eq own ▸ SchemaKind.allows_toJson_iff

/-- The schema of a member is its own one in a record, and the one of all values in a map. -/
theorem declared?_toJson : declared? own.toJson name =
    ((own.kind.members.getD .null).get? name).or own.kind.values := by
  rw [declared?, get_toJson, toJson_eq, SchemaKind.get?_toJson]
  rfl

theorem conforms_text : Conforms (text note).toJson (.text s) := by
  rw [conforms_iff_allows (.text s), allows_iff]
  simp

theorem conforms_flag {b : Bool} : Conforms (flag note).toJson (.bool b) := by
  rw [conforms_iff_allows (.bool b), allows_iff]
  simp

/-- A counter conforms just if it has 64 bits. -/
theorem conforms_counter_iff {n : Int} : Conforms (counter note).toJson (.integer n) ↔
    Number.int64.least ≤ n ∧ n ≤ Number.int64.greatest := by
  rw [integer, conforms_iff_allows (.number (.integer n)), allows_iff]
  simp [integer, HasFormat]

/-- A text of a format conforms just if it has that format. -/
theorem conforms_formatted_iff {format : String} :
    Conforms (formatted note format).toJson (.text s) ↔ HasFormat (.text s) format := by
  rw [conforms_iff_allows (.text s), allows_iff]
  simp

/-- A text conforms to a choice just if it can be chosen. -/
theorem conforms_choice_iff (hchoices : choices ≠ []) :
    Conforms (choice note choices).toJson (.text s) ↔ s ∈ choices := by
  rw [conforms_iff_allows (.text s), allows_iff]
  simp [hchoices]

/-- A list conforms just if its items do. -/
theorem conforms_list_iff {items : List Json} : Conforms (list note own).toJson (.list items) ↔
    ∀ item ∈ items, Conforms own.toJson item := by
  have hitems : (toJson (list note own)).get "items" = own.toJson := get_toJson _ _
  rw [conforms_items_iff, hitems, allows_iff]
  simp

/-- An object with any names conforms just if the values of its members do. -/
theorem conforms_map_iff {entries : List (String × Json)} :
    Conforms (map note own).toJson (.object entries) ↔ ∀ m ∈ entries, Conforms own.toJson m.2 := by
  have hdeclared (name : String) : declared? (map note own).toJson name = some own.toJson :=
    declared?_toJson
  rw [conforms_members_iff, allows_iff]
  simp [hdeclared]

theorem find_membersJson : find name (membersJson members) =
    (TextMap.lookup name members).map toJson := by
  induction members with
  | nil => rfl
  | cons m rest ih =>
      obtain ⟨n, own⟩ := m
      rw [membersJson, find, TextMap.lookup, ih]
      split <;> rfl

/-- An object conforms to a record just if it has all members that are required, and if each of its
members is one of the record and conforms to the schema there. -/
theorem conforms_record_iff {entries : List (String × Json)} :
    Conforms (record note members required).toJson (.object entries) ↔
      (∀ name ∈ required, name ∈ names entries) ∧
        ∀ m ∈ entries, ∃ own, TextMap.lookup m.1 members = some own ∧ Conforms own.toJson m.2 := by
  have hdeclared (name : String) : declared? (record note members required).toJson name =
      (TextMap.lookup name members).map toJson := by
    rw [← find_membersJson, declared?_toJson]
    exact Option.or_none
  rw [conforms_members_iff, allows_iff]
  simp [hdeclared, Json.get?, Json.members, find_isSome_iff]

end Schema

end TopicOperator
