import TopicOperator.Operator
import TopicOperator.Topic.Definition

/-!
# Program

The operator as a program: it reads the command line and the environment, prints what the command
shows on the console and ends with a code.  It has no API server and keeps no files, so a run ends
when the client cannot be created, and events go to the console alone.
-/

namespace TopicOperator.Program

/-- The variables of the environment that matter. -/
def environmentVariables : List String :=
  RunOption.all.map RunOption.variableName ++ [Telemetry.consoleVariable, Telemetry.fileVariable,
    Cluster.homeVariable, Cluster.configurationVariable]

/-- Reads the environment. -/
def readEnvironment : IO (TextMap String) := do
  let mut found := []
  for name in environmentVariables do
    if let some value ← IO.getEnv name then
      found := (name, value) :: found
  return .ofList found

/-- An event as the console shows it. -/
def consoleLine : LogFormat → TargetedEvent → String
  | .json, event => event.toJson.write
  | .plain, event => event.line

/-- Shows why a command line is not carried out. -/
def refuse (error : UsageError) : IO UInt32 := do
  match error.message? with
  | some message =>
      IO.eprintln message
      return 2
  | none =>
      IO.println ("Usage: " ++ Operator.serviceName ++ " <COMMAND>")
      return if error = .helpWanted then 0 else 2

/-- Carries out a command. -/
def perform (environment : TextMap String) : Command → IO UInt32
  | .printDefinition => do
      IO.print Topic.definitionDocument
      return 0
  | .run arguments => do
      let execution := Operator.run environment ⟨0⟩ {} arguments
      for event in execution.console do
        IO.println (consoleLine execution.format event)
      IO.eprintln execution.failure.message
      return 1

/-- Reads the command line and carries it out. -/
def start (arguments : List String) : IO UInt32 := do
  let environment ← readEnvironment
  match CommandLine.read environment arguments with
  | .ok command => perform environment command
  | .error error => refuse error

end TopicOperator.Program

/-- The program. -/
def main (arguments : List String) : IO UInt32 :=
  TopicOperator.Program.start arguments
