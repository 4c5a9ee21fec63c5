import TopicOperator.Json.Reading

/-!
# Statuses of the API server

The status with which the API server answers instead of an object: how it is read, and how messages
show it with all its fields.
-/

namespace TopicOperator

open Json Json.Draft

/-- Whether a refusal calls itself a success or a failure. -/
inductive RefusalOutcome where
  | success
  | failure
deriving DecidableEq, Repr

/-- What a status says about a list. -/
structure ListMetadata where
  continuation : Option String := none
  remainingItemCount : Option Int := none
  resourceVersion : Option String := none
  selfLink : Option String := none
deriving DecidableEq, Repr

/-- One cause of a refusal. -/
structure StatusCause where
  reason : String := ""
  message : String := ""
  field : String := ""
deriving DecidableEq, Repr

/-- The details of a refusal. -/
structure StatusDetails where
  name : String := ""
  group : String := ""
  kind : String := ""
  uid : String := ""
  causes : List StatusCause := []
  retryAfterSeconds : Nat := 0
deriving DecidableEq, Repr

/-- The status with which the API server answers instead of an object. -/
structure ServerStatus where
  outcome : Option RefusalOutcome := none
  code : Nat := 0
  message : String := ""
  metadata : Option ListMetadata := none
  reason : String := ""
  details : Option StatusDetails := none
deriving DecidableEq, Repr

namespace ServerStatus

/-- A value with its fields as messages show it. -/
def recordText (title : String) (fields : List (String × String)) : String :=
  title ++ " \x7b " ++
    String.intercalate ", " (fields.map fun (name, value) => name ++ ": " ++ value) ++ " \x7d"

/-- A value that may be missing, as messages show it. -/
def optionText {α : Type} (text : α → String) : Option α → String
  | none => "None"
  | some value => "Some(" ++ text value ++ ")"

/-- The outcome as messages show it. -/
def outcomeText : RefusalOutcome → String
  | .success => "Success"
  | .failure => "Failure"

/-- The metadata of a list as messages show them. -/
def metadataText (m : ListMetadata) : String :=
  recordText "ListMeta" [
    ("continue_", optionText Text.quoted m.continuation),
    ("remaining_item_count", optionText Number.signedDecimal m.remainingItemCount),
    ("resource_version", optionText Text.quoted m.resourceVersion),
    ("self_link", optionText Text.quoted m.selfLink)]

/-- A cause as messages show it. -/
def causeText (c : StatusCause) : String :=
  recordText "StatusCause" [("reason", Text.quoted c.reason), ("message", Text.quoted c.message),
    ("field", Text.quoted c.field)]

/-- The details as messages show them. -/
def detailsText (d : StatusDetails) : String :=
  recordText "StatusDetails" [
    ("name", Text.quoted d.name), ("group", Text.quoted d.group), ("kind", Text.quoted d.kind),
    ("uid", Text.quoted d.uid), ("causes", Text.bracketed (d.causes.map causeText)),
    ("retry_after_seconds", Number.decimal d.retryAfterSeconds)]

/-- A status in short. -/
def summary (s : ServerStatus) : String := s.message ++ ": " ++ s.reason

/-- A status with all its fields. -/
def text (s : ServerStatus) : String :=
  recordText "Status" [
    ("status", optionText outcomeText s.outcome), ("code", Number.decimal s.code),
    ("message", Text.quoted s.message), ("metadata", optionText metadataText s.metadata),
    ("reason", Text.quoted s.reason), ("details", optionText detailsText s.details)]

/-- How the metadata of a list are read. -/
def metadataShape : RecordKind ListMetadata where
  title := "ListMeta"
  strict := false
  blank := {}
  fields := [
    optionalField "continue" .optional (readText "a string")
      fun v m => { m with continuation := v },
    optionalField "remainingItemCount" .optional readInteger
      fun v m => { m with remainingItemCount := v },
    optionalField "resourceVersion" .optional (readText "a string")
      fun v m => { m with resourceVersion := v },
    optionalField "selfLink" .optional (readText "a string")
      fun v m => { m with selfLink := v }]

/-- How a cause is read. -/
def causeShape : RecordKind StatusCause where
  title := "struct StatusCause"
  strict := true
  blank := {}
  fields := [
    defaultField "reason" (readText "a string") fun v c => { c with reason := v },
    defaultField "message" (readText "a string") fun v c => { c with message := v },
    defaultField "field" (readText "a string") fun v c => { c with field := v }]

/-- How details are read. -/
def detailsShape : RecordKind StatusDetails where
  title := "struct StatusDetails"
  strict := true
  blank := {}
  fields := [
    defaultField "name" (readText "a string") fun v d => { d with name := v },
    defaultField "group" (readText "a string") fun v d => { d with group := v },
    defaultField "kind" (readText "a string") fun v d => { d with kind := v },
    defaultField "uid" (readText "a string") fun v d => { d with uid := v },
    defaultField "causes" (readList causeShape.read) fun v d => { d with causes := v },
    defaultField "retryAfterSeconds" (readNatural 32)
      fun v d => { d with retryAfterSeconds := v }]

/-- All outcomes with their names. -/
def namedOutcomes : List (String × RefusalOutcome) :=
  [("Success", .success), ("Failure", .failure)]

/-- How a status is read. -/
def shape : RecordKind ServerStatus where
  title := "struct Status"
  strict := true
  blank := {}
  fields := [
    optionalField "status" .optional (readVariant namedOutcomes)
      fun v s => { s with outcome := v },
    defaultField "code" (readNatural 16) fun v s => { s with code := v },
    defaultField "message" (readText "a string") fun v s => { s with message := v },
    optionalField "metadata" .optional metadataShape.read fun v s => { s with metadata := v },
    defaultField "reason" (readText "a string") fun v s => { s with reason := v },
    optionalField "details" .optional detailsShape.read fun v s => { s with details := v }]

/-- Reads a status. -/
def reader : Reader ServerStatus := shape.read

/-- The status that stands for an answer which holds none. -/
def ofBody (code : Nat) (body : String) : ServerStatus where
  outcome := some .failure
  code := code
  message := body
  reason := "Failed to parse error data"

/-- The refusal of a patch whose steps do not fit the object. -/
def unprocessable : ServerStatus where
  outcome := some .failure
  code := 422
  message := "the patch does not apply"
  reason := "Invalid"

end ServerStatus

end TopicOperator
