import TopicOperator.Controller.Namespace
import TopicOperator.Controller.Options
import TopicOperator.Telemetry.Options

/-!
# Options of the command line

The options with which the operator is run, and what they set.  An option that is not given on the
command line may be given by a variable of the environment, whose name is that of the option in
capitals.
-/

namespace TopicOperator

/-- What the operator is run with. -/
structure RunArguments where
  watched : WatchedNamespace := .all
  controller : ControllerOptions := {}
  telemetry : TelemetryOptions := {}
deriving DecidableEq, Repr

/-- An option of the command line. -/
inductive RunOption where
  | watchNamespace
  | maxConcurrent
  | requeueInterval
  | errorRequeueInterval
  | callTimeout
  | consoleLogDisabled
  | consoleLogFormat
  | fileLogDirectory
  | fileLogRotation
  | fileLogMaxFiles
deriving DecidableEq, Repr

namespace RunOption

/-- All options, in the order in which the environment is asked for them. -/
def all : List RunOption :=
  [watchNamespace, maxConcurrent, requeueInterval, errorRequeueInterval, callTimeout,
    consoleLogDisabled, consoleLogFormat, fileLogDirectory, fileLogRotation, fileLogMaxFiles]

/-- The name of an option, without the dashes in front. -/
def name : RunOption → String
  | watchNamespace => "watch-namespace"
  | maxConcurrent => "max-concurrent-reconciles"
  | requeueInterval => "requeue-interval"
  | errorRequeueInterval => "error-requeue-interval"
  | callTimeout => "external-call-timeout"
  | consoleLogDisabled => "console-log-disabled"
  | consoleLogFormat => "console-log-format"
  | fileLogDirectory => "file-log-directory"
  | fileLogRotation => "file-log-rotation-period"
  | fileLogMaxFiles => "file-log-max-files"

/-- The option of a name. -/
def ofName? (s : String) : Option RunOption :=
  all.find? fun o => o.name == s

/-- The variable of the environment that gives an option. -/
def variableName (o : RunOption) : String :=
  String.ofList (o.name.toList.map fun c => if c = '-' then '_' else c.toUpper)

/-- Whether an option is followed by a value. -/
def takesValue : RunOption → Bool
  | consoleLogDisabled => false
  | _ => true

/-- What messages call the value of an option. -/
def valueName : RunOption → String
  | fileLogDirectory => "DIRECTORY"
  | fileLogRotation => "PERIOD"
  | fileLogMaxFiles => "COUNT"
  | o => o.variableName

/-- An option as messages show it. -/
def text (o : RunOption) : String :=
  "--" ++ o.name ++ if o.takesValue then " <" ++ o.valueName ++ ">" else ""

end RunOption

end TopicOperator
