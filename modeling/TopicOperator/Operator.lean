import TopicOperator.Cluster
import TopicOperator.CommandLine.Command
import TopicOperator.Telemetry.Setup

/-!
# The operator

What a command does: it prints the resource definition, or sets up telemetry and connects to the API
server.  Where there is no API server, the connection fails and the run ends.
-/

namespace TopicOperator

/-- Why the operator ends. -/
inductive OperatorError where
  | telemetry (cause : TelemetryError)
  /-- The client of the API server cannot be created. -/
  | client
deriving DecidableEq, Repr

/-- The wording of an error. -/
def OperatorError.message : OperatorError → String
  | telemetry _ => "failed to initialize tracing"
  | client => "failed to create the Kubernetes client"

/-- What came of a run: events on the console in some format, events in the log file, files, and why
it ended. -/
structure Execution where
  console : List TargetedEvent := []
  format : LogFormat := .plain
  file : List TargetedEvent := []
  files : FileTree
  failure : OperatorError

namespace Operator

/-- The name of the operator, which starts the names of its log files. -/
def serviceName : String := "converge-operator"

/-- Runs the operator where there is no API server. -/
def run (environment : TextMap String) (now : Instant) (files : FileTree)
    (arguments : RunArguments) : Execution :=
  let telemetry := Telemetry.configured serviceName arguments.telemetry
  match telemetry.start now false files with
  | (.error cause, files) => { files := files, failure := .telemetry cause }
  | (.ok (), files) =>
      let events := telemetry.startEvents ++ [Cluster.missingEvent environment files]
      { console := telemetry.consoleEvents environment events
        format := arguments.telemetry.consoleFormat
        file := telemetry.fileEvents environment events
        files := files
        failure := .client }

end Operator

end TopicOperator
