/-!
# Events

What the operator logs: a level, a message, and fields with their texts.
-/

namespace TopicOperator

/-- The level of an event. -/
inductive Level where
  | error
  | warn
  | info
  | debug
  | trace
deriving DecidableEq, Repr

/-- The name of a level. -/
def Level.name : Level → String
  | error => "ERROR"
  | warn => "WARN"
  | info => "INFO"
  | debug => "DEBUG"
  | trace => "TRACE"

/-- An event. -/
structure Event where
  level : Level
  message : String
  fields : List (String × String) := []
deriving DecidableEq, Repr

/-- The names of the fields of an event, of which the message is one. -/
def Event.fieldNames (e : Event) : List String :=
  "message" :: e.fields.map (·.1)

/-- An event with the part of the program that it comes from. -/
structure TargetedEvent where
  target : String
  event : Event
deriving DecidableEq, Repr

end TopicOperator
