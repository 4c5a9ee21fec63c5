import TopicOperator.Text.Choice

/-!
# Telemetry options

Where log events go: to the console in one of two formats unless it is disabled, and to files in a
directory if one is given.  Files are replaced by new ones after some period, and old ones may be
removed.
-/

namespace TopicOperator

/-- The format of events on the console. -/
inductive LogFormat where
  | plain
  | json
deriving DecidableEq, Repr

/-- When a new log file is started. -/
inductive RotationPeriod where
  | minutely
  | hourly
  | daily
  | never
deriving DecidableEq, Repr

namespace LogFormat

/-- The name of a format. -/
def name : LogFormat → String
  | plain => "plain"
  | json => "json"

/-- A format as descriptions of a setup show it. -/
def title : LogFormat → String
  | plain => "Plain"
  | json => "Json"

/-- All formats. -/
def all : List LogFormat := [plain, json]

/-- The words that choose a format on the command line, which are the names. -/
def choices : List (String × LogFormat) := all.map fun f => (f.name, f)

/-- The format of a name. -/
def ofName? (s : String) : Option LogFormat := Text.chosen? choices s

end LogFormat

namespace RotationPeriod

/-- The name of a period. -/
def name : RotationPeriod → String
  | minutely => "Minutely"
  | hourly => "Hourly"
  | daily => "Daily"
  | never => "Never"

/-- The word that chooses a period on the command line. -/
def word : RotationPeriod → String
  | minutely => "minutely"
  | hourly => "hourly"
  | daily => "daily"
  | never => "never"

/-- All periods. -/
def all : List RotationPeriod := [minutely, hourly, daily, never]

/-- The words that choose a period on the command line. -/
def choices : List (String × RotationPeriod) := all.map fun p => (p.word, p)

/-- The period of a name. -/
def ofName? (s : String) : Option RotationPeriod :=
  Text.chosen? (all.map fun p => (p.name, p)) s

end RotationPeriod

/-- Where log events go. -/
structure TelemetryOptions where
  consoleDisabled : Bool := false
  consoleFormat : LogFormat := .plain
  /-- The directory of the log files. -/
  directory : Option String := none
  rotation : Option RotationPeriod := none
  /-- How many log files are kept. -/
  maxFiles : Option Nat := none
deriving DecidableEq, Repr

end TopicOperator
