import TopicOperator.Telemetry.FileTree
import TopicOperator.Telemetry.Options
import TopicOperator.Time.Stamp

/-!
# Log files

How log files are named, and how one is opened: first the oldest log files are removed, so that with
the new one no more than the number to keep are left; then the file is looked for, and made if it is
missing.
-/

namespace TopicOperator

namespace RotationPeriod

/-- The part of a date and time that names the log file which is begun at that time. -/
def stamp (now : Instant) : RotationPeriod → List Char
  | never => []
  | daily => date
  | hourly => date ++ '-' :: hour
  | minutely => date ++ '-' :: (hour ++ '-' :: minute)
where
  /-- The date. -/
  date : List Char := Instant.writeDate (.ofDay (now.seconds / Instant.daySeconds))
  /-- The second of the day. -/
  second : Nat := (now.seconds % Instant.daySeconds).toNat
  /-- The hour. -/
  hour : List Char := Number.paddedDigits 2 (second / 3600)
  /-- The minute. -/
  minute : List Char := Number.paddedDigits 2 (second / 60 % 60)

end RotationPeriod

/-- Where log files are kept. -/
structure FileSink where
  directory : String
  rotation : RotationPeriod
  /-- How many log files are kept. -/
  maxFiles : Option Nat
deriving DecidableEq, Repr

namespace FileSink

/-- What the names of log files end in. -/
def suffix : String := "tracing-rs.json"

/-- The name of the log file of a service that is begun at some time. -/
def fileName (sink : FileSink) (service : String) (now : Instant) : String :=
  let stamp := sink.rotation.stamp now
  String.ofList <|
    service.toList ++ '.' :: (if stamp.isEmpty then [] else stamp ++ ['.']) ++ suffix.toList

/-- Whether a path is that of a log file of a service in a directory. -/
def isLogFile (service : String) (directory path : FilePath) : Bool :=
  path.length == directory.length + 1 && directory.isPrefixOf path &&
    match path.getLast? with
    | some name =>
        service.toList.isPrefixOf name.toList && suffix.toList.isSuffixOf name.toList
    | none => false

/-- The tree without the oldest log files in a directory, where one more is going to come.  To keep
no files at all means to keep all of them. -/
def prune (sink : FileSink) (service : String) (directory : FilePath) (tree : FileTree) :
    FileTree :=
  let logs := tree.files.filter (isLogFile service directory)
  match sink.maxFiles with
  | none | some 0 => tree
  | some (count + 1) =>
      let surplus := logs.take (logs.length - count)
      { tree with files := tree.files.filter fun path => !surplus.contains path }

/-- The tree without the oldest log files, if there is a directory of log files. -/
def pruned (sink : FileSink) (service : String) (tree : FileTree) : FileTree :=
  match tree.find? sink.directory with
  | some directory => sink.prune service directory tree
  | none => tree

/-- Opens the log file of a service at some time: whether that is possible, and the tree after it. -/
def openFile (sink : FileSink) (service : String) (now : Instant) (tree : FileTree) :
    Bool × FileTree :=
  let tree := sink.pruned service tree
  let name := sink.fileName service now
  if FilePath.isWritable (sink.directory ++ "/" ++ name) then
    match tree.reach? sink.directory with
    | some (directory, tree) =>
        let path := directory ++ [name]
        if tree.isDirectory path || !tree.hasRoomFor path then (false, tree)
        else (true, tree.makeFile path)
    | none => (false, tree)
  else (false, tree)

end FileSink

end TopicOperator
