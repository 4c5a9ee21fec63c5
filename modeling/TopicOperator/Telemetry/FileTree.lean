/-!
# File trees

The files and directories of a system, as lists of the names on the way to them.  A written path is
walked name by name, where two dots lead back to the directory before; a directory that is missing on
the way may be made, unless a file is in the way or the place is not one where files may be made.
-/

namespace TopicOperator

/-- The way to a file or a directory: the names of directories and at last its own. -/
abbrev FilePath := List String

namespace FilePath

/-- The names in a path that is written with slashes. -/
def ofText (s : String) : FilePath :=
  ((s.toList.splitOn '/').filter fun name => name ≠ [] ∧ name ≠ ['.']).map String.ofList

/-- Whether a written path starts at the root. -/
def isRooted (s : String) : Bool :=
  s.toList.head? = some '/'

/-- How many bytes a name may have. -/
def nameLimit : Nat := 255

/-- How many bytes a written path may have. -/
def limit : Nat := 4095

/-- Whether a path can be written like this. -/
def isWritable (s : String) : Bool :=
  s.utf8ByteSize ≤ limit && !s.toList.contains '\x00'

end FilePath

/-- The files and directories of a system. -/
structure FileTree where
  /-- The files, the oldest first. -/
  files : List FilePath := []
  /-- Directories, besides those on the way to the files. -/
  directories : List FilePath := []
  /-- The directory where paths start that do not start at the root. -/
  here : FilePath := []
  /-- The directory below which files and directories may be made. -/
  area : FilePath := []

namespace FileTree

/-- Whether there is a directory at a path. -/
def isDirectory (tree : FileTree) (path : FilePath) : Bool :=
  path.isEmpty || (tree.here :: tree.area :: tree.directories).any path.isPrefixOf ||
    tree.files.any fun file => path.length < file.length && path.isPrefixOf file

/-- Whether there is a file at a path. -/
def isFile (tree : FileTree) (path : FilePath) : Bool :=
  tree.files.contains path

/-- The names of the files and directories that are directly in a directory. -/
def names (tree : FileTree) (directory : FilePath) : List String :=
  ((tree.files ++ tree.directories).filterMap fun path =>
    if directory.isPrefixOf path then path[directory.length]? else none).eraseDups

/-- The tree with a directory at a path. -/
def makeDirectory (tree : FileTree) (path : FilePath) : FileTree :=
  if tree.isDirectory path then tree else { tree with directories := tree.directories ++ [path] }

/-- The tree with a file at a path. -/
def makeFile (tree : FileTree) (path : FilePath) : FileTree :=
  if tree.isFile path then tree else { tree with files := tree.files ++ [path] }

/-- Whether something may be made at a path. -/
def hasRoomFor (tree : FileTree) (path : FilePath) : Bool :=
  tree.area.isPrefixOf path && (path.getLastD "").utf8ByteSize ≤ FilePath.nameLimit

/-- Walks to a directory by names. -/
def walk? (tree : FileTree) : FilePath → List String → Option FilePath
  | place, [] => some place
  | place, ".." :: rest => tree.walk? place.dropLast rest
  | place, name :: rest =>
      let next := place ++ [name]
      if tree.isDirectory next then tree.walk? next rest else none

/-- Walks to a directory by names and makes the directories that are missing. -/
def pave? (tree : FileTree) : FilePath → List String → Option (FilePath × FileTree)
  | place, [] => some (place, tree)
  | place, ".." :: rest => tree.pave? place.dropLast rest
  | place, name :: rest =>
      let next := place ++ [name]
      if tree.isDirectory next then tree.pave? next rest
      else if tree.isFile next || !tree.hasRoomFor next then none
      else (tree.makeDirectory next).pave? next rest

/-- Where a written path starts. -/
def startOf (tree : FileTree) (written : String) : FilePath :=
  if FilePath.isRooted written then [] else tree.here

/-- The directory that a written path leads to. -/
def find? (tree : FileTree) (written : String) : Option FilePath :=
  tree.walk? (tree.startOf written) (FilePath.ofText written)

/-- The directory that a written path leads to, which is made if it is missing. -/
def reach? (tree : FileTree) (written : String) : Option (FilePath × FileTree) :=
  tree.pave? (tree.startOf written) (FilePath.ofText written)

end FileTree

end TopicOperator
