import TopicOperator.CommandLine.Value
import TopicOperator.TextMap.Basic

/-!
# Commands

How a command line is read: the name of a command, then its arguments.  The value of an option follows
after an equals sign or as the next argument.  In the latter case it is looked at only when the next
option comes or the line ends, so an argument that is not expected at all is reported before it.
After the line the environment gives the options that are still missing.
-/

namespace TopicOperator

/-- What the operator is asked to do. -/
inductive Command where
  /-- Print the resource definition. -/
  | printDefinition
  | run (arguments : RunArguments)
deriving DecidableEq, Repr

namespace CommandLine

/-- An argument by its form. -/
inductive Argument where
  /-- Two dashes, after which no argument is an option. -/
  | escape
  | long (name : String) (value : Option String)
  /-- One dash and letters, of which the first one counts. -/
  | short (letter : Char)
  | plain (text : String)
deriving DecidableEq, Repr

/-- The form of an argument after two dashes. -/
def Argument.ofLong (cs : List Char) : Argument :=
  let name := cs.takeWhile (· ≠ '=')
  match cs.drop name.length with
  | _ :: value => .long (String.ofList name) (some (String.ofList value))
  | [] => .long (String.ofList name) none

/-- The form of an argument. -/
def Argument.ofText (s : String) : Argument :=
  match s.toList with
  | ['-', '-'] => .escape
  | '-' :: '-' :: cs => .ofLong cs
  | '-' :: c :: _ => .short c
  | _ => .plain s

/-- How messages show a letter after a dash. -/
def shortText (letter : Char) : String := String.ofList ['-', letter]

/-- The argument that asks for help. -/
def helpName : String := "help"

/-- What comes of an argument that is no option of a command, which may ask for help. -/
def otherArgument : Argument → UsageError
  | .escape => .unknownArgument "--"
  | .long name value =>
      if name = helpName then
        match value with
        | some value => .surplusValue value ("--" ++ helpName)
        | none => .helpWanted
      else .unknownArgument ("--" ++ name)
  | .short letter => if letter = 'h' then .helpWanted else .unknownArgument (shortText letter)
  | .plain text => .unknownArgument text

/-- What was read of the arguments of a run: the options given so far, and one that still waits for
its value or whose value was not looked at yet. -/
structure Parsing where
  arguments : RunArguments := {}
  given : List RunOption := []
  pending : Option (RunOption × Option String) := none

namespace Parsing

/-- Sets an option, which must not have been given before. -/
def take (p : Parsing) (o : RunOption) (value : String) : Except UsageError Parsing := do
  if o ∈ p.given then
    .error (.repeated o)
  else
    return { p with arguments := ← o.assign value p.arguments, given := p.given ++ [o] }

/-- Sets the option that is pending. -/
def settle (p : Parsing) : Except UsageError Parsing :=
  match p.pending with
  | none => .ok p
  | some (o, none) => .error (.missingValue o)
  | some (o, some value) => { p with pending := none }.take o value

/-- Reads an option. -/
def option (p : Parsing) (o : RunOption) (value : Option String) : Except UsageError Parsing := do
  if o.takesValue then
    let p ← p.settle
    match value with
    | some value => p.take o value
    | none => return { p with pending := some (o, none) }
  else
    match value with
    | some value => .error (.surplusValue value o.text)
    | none => (← p.settle).take o "true"

/-- Reads an argument that is no option.  Asking for help comes after the option that is pending. -/
def other (p : Parsing) (argument : Argument) : Except UsageError Parsing := do
  let error := otherArgument argument
  if error = .helpWanted then
    let _ ← p.settle
  .error error

/-- Reads a text that is no option: the value of the option that waits for it. -/
def plain (p : Parsing) (text : String) : Except UsageError Parsing :=
  match p.pending with
  | some (o, none) => .ok { p with pending := some (o, some text) }
  | _ => .error (.unknownArgument text)

/-- Reads one argument. -/
def argument (p : Parsing) : Argument → Except UsageError Parsing
  | .plain text => p.plain text
  | .long name value =>
      match RunOption.ofName? name with
      | some o => p.option o value
      | none => p.other (.long name value)
  | other => p.other other

/-- Reads arguments to the end of the line.  After two dashes nothing may follow. -/
def line (p : Parsing) : List String → Except UsageError Parsing
  | [] => p.settle
  | s :: rest =>
      match Argument.ofText s with
      | .escape =>
          match rest with
          | [] => p.settle
          | surplus :: _ => .error (.unknownArgument surplus)
      | argument => do (← p.argument argument).line rest

/-- Sets an option from the environment unless it was given. -/
def fill (environment : TextMap String) (p : Parsing) (o : RunOption) : Except UsageError Parsing :=
  if o ∈ p.given then .ok p
  else
    match environment.get? o.variableName with
    | some value => p.take o value
    | none => .ok p

/-- Whether options for log files were given without a directory. -/
def lacksDirectory (p : Parsing) : Bool :=
  (p.given.contains .fileLogRotation || p.given.contains .fileLogMaxFiles) &&
    !p.given.contains .fileLogDirectory

end Parsing

/-- Reads the arguments of a run. -/
def readRun (environment : TextMap String) (line : List String) :
    Except UsageError RunArguments := do
  let p ← Parsing.line {} line
  let p ← RunOption.all.foldlM (Parsing.fill environment) p
  if p.lacksDirectory then .error .missingDirectory else return p.arguments

/-- Reads the arguments of a command that takes none. -/
def readNothing : List String → Except UsageError Unit
  | [] => .ok ()
  | s :: rest =>
      match Argument.ofText s with
      | .escape =>
          match rest with
          | [] => .ok ()
          | surplus :: _ => .error (.unknownArgument surplus)
      | argument => .error (otherArgument argument)

/-- The command that prints the resource definition. -/
def definitionName : String := "crd"

/-- The command that runs the operator. -/
def runName : String := "run"

/-- The names of the commands. -/
def commandNames : List String := [definitionName, runName, helpName]

/-- What comes of asking for help about a list of commands, each of which belongs to the one before
it. -/
def helpAbout : List String → UsageError
  | [] => .helpWanted
  | [name] => if name ∈ commandNames then .helpWanted else .unknownCommand name
  | name :: sub :: _ => if name ∈ commandNames then .unknownCommand sub else .unknownCommand name

/-- What comes of a line that starts with no command. -/
def withoutCommand (s : String) (rest : List String) : UsageError :=
  match Argument.ofText s with
  | .escape =>
      match rest with
      | [] => .noCommand
      | name :: _ => if name ∈ commandNames then .unknownArgument name else .unknownCommand name
  | .plain text => .unknownCommand text
  | argument => otherArgument argument

/-- Reads a command line in an environment. -/
def read (environment : TextMap String) : List String → Except UsageError Command
  | [] => .error .noCommand
  | s :: rest =>
      if s = definitionName then (readNothing rest).map fun () => .printDefinition
      else if s = runName then (readRun environment rest).map .run
      else if s = helpName then .error (helpAbout rest)
      else .error (withoutCommand s rest)

end CommandLine

end TopicOperator
