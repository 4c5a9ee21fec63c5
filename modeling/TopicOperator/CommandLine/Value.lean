import TopicOperator.CommandLine.Error
import TopicOperator.Time.Span

/-!
# Values of options

How the value of an option is read and what it sets.
-/

namespace TopicOperator

namespace RunOption

/-- The value of an option that was read, or the reason why it is invalid. -/
def valid {α ε : Type} (o : RunOption) (s : String) (reason : ε → String) :
    Except ε α → Except UsageError α
  | .ok value => .ok value
  | .error e => .error (.invalidValue s o (reason e))

/-- A value that is one of some words. -/
def choose {α : Type} (o : RunOption) (choices : List (String × α)) (s : String) :
    Except UsageError α :=
  match Text.chosen? choices s with
  | some value => .ok value
  | none => .error (if s.isEmpty then .missingValue o else .noChoice s o)

/-- A number of 16 bits. -/
def readSmall (o : RunOption) (s : String) : Except UsageError Nat := do
  let n ← o.valid s Number.IntegerError.message (Number.int64.read s)
  if 0 ≤ n ∧ n ≤ 65535 then
    return n.toNat
  else
    .error (.invalidValue s o (Number.signedDecimal n ++ " is not in 0..=65535"))

/-- A number of 64 bits. -/
def readCount (o : RunOption) (s : String) : Except UsageError Nat := do
  return (← o.valid s Number.IntegerError.message (Number.word64.read s)).toNat

/-- A duration. -/
def readDuration (o : RunOption) (s : String) : Except UsageError Duration :=
  o.valid s Duration.SpellingError.message (Duration.read s)

/-- A directory, which has a name. -/
def readDirectory (o : RunOption) (s : String) : Except UsageError String :=
  if s.isEmpty then .error (.missingValue o) else .ok s

/-- The words for a truth value. -/
def truthChoices : List (String × Bool) := [("true", true), ("false", false)]

/-- The arguments with an option set to a value. -/
def assign (o : RunOption) (s : String) (a : RunArguments) : Except UsageError RunArguments :=
  match o with
  | watchNamespace => .ok { a with watched := .ofText s }
  | maxConcurrent => do
      return { a with controller := { a.controller with maxConcurrent := ← o.readSmall s } }
  | requeueInterval => do
      return { a with controller := { a.controller with requeueInterval := ← o.readDuration s } }
  | errorRequeueInterval => do
      return { a with
        controller := { a.controller with errorRequeueInterval := ← o.readDuration s } }
  | callTimeout => do
      return { a with controller := { a.controller with callTimeout := ← o.readDuration s } }
  | consoleLogDisabled => do
      return { a with
        telemetry := { a.telemetry with consoleDisabled := ← o.choose truthChoices s } }
  | consoleLogFormat => do
      return { a with
        telemetry := { a.telemetry with consoleFormat := ← o.choose LogFormat.choices s } }
  | fileLogDirectory => do
      return { a with telemetry := { a.telemetry with directory := ← o.readDirectory s } }
  | fileLogRotation => do
      return { a with
        telemetry := { a.telemetry with rotation := ← o.choose RotationPeriod.choices s } }
  | fileLogMaxFiles => do
      return { a with telemetry := { a.telemetry with maxFiles := ← o.readCount s } }

end RunOption

end TopicOperator
