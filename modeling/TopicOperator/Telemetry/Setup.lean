import TopicOperator.Json.Writer
import TopicOperator.Telemetry.Filter
import TopicOperator.Telemetry.LogFile
import TopicOperator.Text.Quoted
import TopicOperator.TextMap.Basic

/-!
# Telemetry setup

The sinks of log events that the options ask for, and how they are set up: the log file is opened,
then the sinks are installed, which can be done only once in a process.  If there is no sink, nothing
is installed.
-/

namespace TopicOperator

/-- The sinks of log events. -/
structure Telemetry where
  service : String
  console : Option LogFormat
  file : Option FileSink
deriving DecidableEq, Repr

/-- Why the sinks cannot be set up. -/
inductive TelemetryError where
  /-- The log file cannot be opened. -/
  | logFile (directory : String)
  /-- Sinks were installed before. -/
  | installed
deriving DecidableEq, Repr

namespace TelemetryError

/-- The wording of an error. -/
def message : TelemetryError → String
  | logFile directory => "failed to open rolling log files in " ++ directory
  | installed => "unable to set the global default subscriber"

/-- The wordings of the causes of an error. -/
def causes : TelemetryError → List String
  | logFile _ => []
  | installed => ["a global default trace dispatcher has already been set"]

end TelemetryError

/-- The fields of an event in the order in which they are written. -/
def TargetedEvent.fieldsJson (t : TargetedEvent) : Json :=
  .object (("message", .text t.event.message) ::
    t.event.fields.map fun (name, value) => (name, .text value))

/-- An event as it is written to a log file, but for the time. -/
def TargetedEvent.toJson (t : TargetedEvent) : Json :=
  .object [("level", .text t.event.level.name), ("fields", t.fieldsJson),
    ("target", .text t.target)]

/-- An event as a line of plain text, but for the time. -/
def TargetedEvent.line (t : TargetedEvent) : String :=
  t.event.level.name ++ " " ++ t.target ++ ": " ++ t.event.message ++
    String.join (t.event.fields.map fun (name, value) => " " ++ name ++ "=" ++ value)

namespace Telemetry

/-- The sinks that options ask for. -/
def configured (service : String) (options : TelemetryOptions) : Telemetry where
  service := service
  console := if options.consoleDisabled then none else some options.consoleFormat
  file := options.directory.map fun directory =>
    { directory := directory
      rotation := options.rotation.getD .never
      maxFiles := options.maxFiles }

/-- A value that may be missing, as descriptions show it. -/
def optionText {α : Type} (text : α → String) : Option α → String
  | some value => "Some(" ++ text value ++ ")"
  | none => "None"

/-- Where log files are kept, as descriptions show it. -/
def sinkText (sink : FileSink) : String :=
  "FileSink \x7b directory: " ++ Text.quotedPath sink.directory ++ ", rotation: " ++
    sink.rotation.name ++ ", max_files: " ++ optionText Number.decimal sink.maxFiles ++ " \x7d"

/-- The description of sinks. -/
def text (t : Telemetry) : String :=
  "Tracing \x7b service_name: " ++ Text.quoted t.service ++ ", console: " ++
    optionText LogFormat.title t.console ++ ", file: " ++ optionText sinkText t.file ++ " \x7d"

/-- Whether there is no sink. -/
def isEmpty (t : Telemetry) : Bool :=
  t.console.isNone && t.file.isNone

/-- Opens the log file, if there is to be one. -/
def openFile (t : Telemetry) (now : Instant) (tree : FileTree) :
    Except TelemetryError Unit × FileTree :=
  match t.file with
  | none => (.ok (), tree)
  | some sink =>
      let (opened, tree) := sink.openFile t.service now tree
      (if opened then .ok () else .error (.logFile sink.directory), tree)

/-- Sets up the sinks, given whether sinks were installed before.  The files are changed even if that
fails. -/
def start (t : Telemetry) (now : Instant) (installed : Bool) (tree : FileTree) :
    Except TelemetryError Unit × FileTree :=
  match t.openFile now tree with
  | (.error e, tree) => (.error e, tree)
  | (.ok (), tree) => (if installed ∧ !t.isEmpty then .error .installed else .ok (), tree)

/-- The events that are logged after the sinks were set up. -/
def startEvents (t : Telemetry) : List TargetedEvent :=
  match t.file with
  | none => []
  | some sink =>
      [{ target := "converge_telemetry::tracing"
         event := {
          level := .info
          message := "file logging enabled"
          fields := [("directory", sink.directory)] } }]

/-- The variable of the environment that holds the filter of the console. -/
def consoleVariable : String := "CONSOLE_LOG_LEVEL"

/-- The variable of the environment that holds the filter of the log file. -/
def fileVariable : String := "FILE_LOG_LEVEL"

/-- The events that the filter in a variable lets through. -/
def filtered (environment : TextMap String) (variableName : String) (events : List TargetedEvent) :
    List TargetedEvent :=
  let filter := LevelFilter.ofText ((environment.get? variableName).getD "")
  events.filter filter.allows

/-- The events that reach the console. -/
def consoleEvents (t : Telemetry) (environment : TextMap String) (events : List TargetedEvent) :
    List TargetedEvent :=
  if t.console.isSome then filtered environment consoleVariable events else []

/-- The events that reach the log file. -/
def fileEvents (t : Telemetry) (environment : TextMap String) (events : List TargetedEvent) :
    List TargetedEvent :=
  if t.file.isSome then filtered environment fileVariable events else []

end Telemetry

end TopicOperator
