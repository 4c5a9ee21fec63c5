import TopicOperator.Json.Value

/-!
# Schemas

What values of a stored object look like, and how this is told to the API server.  A record lists its
members by name and says which of them must be there; members that are not listed are not kept.
-/

namespace TopicOperator

/-- What a schema says besides the kind of values. -/
structure SchemaNote where
  description : Option String := none
  title : Option String := none
  /-- Whether null is allowed as well. -/
  nullable : Bool := false
  /-- The value that stands for a missing member. -/
  standard : Option Json := none

/-- A schema of values. -/
inductive Schema where
  | text (note : SchemaNote)
  /-- Texts of some format. -/
  | formatted (note : SchemaNote) (format : String)
  /-- Texts out of a list. -/
  | choice (note : SchemaNote) (choices : List String)
  | flag (note : SchemaNote)
  /-- Integers of 64 bits. -/
  | counter (note : SchemaNote)
  /-- Objects with any names and values of one schema. -/
  | map (note : SchemaNote) (values : Schema)
  | list (note : SchemaNote) (items : Schema)
  /-- Objects with given members. -/
  | record (note : SchemaNote) (members : List (String × Schema)) (required : List String)

/-- What the written form of a schema says about the kind of values. -/
structure SchemaKind where
  name : String
  /-- The schema of the values of a map. -/
  values : Option Json := none
  /-- The texts that values may be, none if they are free. -/
  choices : List String := []
  format : Option String := none
  /-- The schema of the items of a list. -/
  items : Option Json := none
  /-- The schemas of the members of a record. -/
  members : Option Json := none
  /-- The members that must be there. -/
  required : List String := []

namespace SchemaKind

/-- A list of texts as a member, which is left out if it is empty. -/
def textsMember (name : String) (items : List String) : List (String × Json) :=
  if items.isEmpty then [] else [(name, .list (items.map .text))]

/-- A member that is there if something holds. -/
def flagMember (name : String) (holds : Bool) : List (String × Json) :=
  if holds then [(name, .bool true)] else []

/-- The written form of a schema, with its members in alphabetical order. -/
def toJson (kind : SchemaKind) (note : SchemaNote) : Json :=
  .object (
    Json.optional "additionalProperties" id kind.values ++
    Json.optional "default" id note.standard ++
    Json.optional "description" .text note.description ++
    textsMember "enum" kind.choices ++
    Json.optional "format" .text kind.format ++
    Json.optional "items" id kind.items ++
    flagMember "nullable" note.nullable ++
    Json.optional "properties" id kind.members ++
    textsMember "required" kind.required ++
    Json.optional "title" .text note.title ++
    [("type", .text kind.name)])

end SchemaKind

namespace Schema

mutual

/-- The written form of a schema. -/
def toJson : Schema → Json
  | text note => SchemaKind.toJson { name := "string" } note
  | formatted note format => SchemaKind.toJson { name := "string", format := some format } note
  | choice note choices => SchemaKind.toJson { name := "string", choices := choices } note
  | flag note => SchemaKind.toJson { name := "boolean" } note
  | counter note => SchemaKind.toJson { name := "integer", format := some "int64" } note
  | map note values => SchemaKind.toJson { name := "object", values := some (toJson values) } note
  | list note items => SchemaKind.toJson { name := "array", items := some (toJson items) } note
  | record note members required =>
      SchemaKind.toJson
        { name := "object", members := some (.object (membersJson members)), required := required }
        note

/-- The written forms of members. -/
def membersJson : List (String × Schema) → List (String × Json)
  | [] => []
  | (name, s) :: rest => (name, toJson s) :: membersJson rest

end

end Schema

end TopicOperator
