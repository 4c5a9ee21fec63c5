import TopicOperator.CommandLine.Option

/-!
# Usage errors

Why a command line is not carried out.  Asking for help is among them, and so is naming no command at
all; both show the help and have no message.
-/

namespace TopicOperator

/-- Why a command line is not carried out. -/
inductive UsageError where
  | helpWanted
  | noCommand
  | unknownCommand (text : String)
  | unknownArgument (text : String)
  | missingValue (option : RunOption)
  /-- The value is none of the words to choose from. -/
  | noChoice (value : String) (option : RunOption)
  | invalidValue (value : String) (option : RunOption) (reason : String)
  | repeated (option : RunOption)
  /-- A value for an argument that takes none. -/
  | surplusValue (value argument : String)
  /-- Options for log files without a directory. -/
  | missingDirectory
deriving DecidableEq, Repr

/-- The first line of the message of a usage error. -/
def UsageError.message? : UsageError → Option String
  | helpWanted | noCommand => none
  | unknownCommand text => some ("error: unrecognized subcommand '" ++ text ++ "'")
  | unknownArgument text => some ("error: unexpected argument '" ++ text ++ "' found")
  | missingValue option =>
      some ("error: a value is required for '" ++ option.text ++ "' but none was supplied")
  | noChoice value option =>
      some ("error: invalid value '" ++ value ++ "' for '" ++ option.text ++ "'")
  | invalidValue value option reason =>
      some ("error: invalid value '" ++ value ++ "' for '" ++ option.text ++ "': " ++ reason)
  | repeated option =>
      some ("error: the argument '" ++ option.text ++ "' cannot be used multiple times")
  | surplusValue value argument =>
      some ("error: unexpected value '" ++ value ++ "' for '" ++ argument ++
        "' found; no more were expected")
  | missingDirectory => some "error: the following required arguments were not provided:"

end TopicOperator
