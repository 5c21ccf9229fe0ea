import RemoteInput.SystemError

/-!
# Files in memory

A tree of directories and text files, and how a path leads to a file in it.
The names of a path are followed from left to right, so that the first name at
which the way ends decides the error; a file has nothing below it, not even
itself.
-/

namespace RemoteInput

/-- A place in a tree: the names on the way to it from the root. -/
abbrev Place := List String

/-- What stands at a place. -/
inductive Entry where
  | directory
  | file (text : String)
  deriving DecidableEq, Repr

/-- Directories and text files. -/
structure FileTree where
  /-- The directory at which relative paths begin. -/
  working : Place
  /-- The directories below the root. -/
  directories : List Place
  files : List (Place × String)
  deriving DecidableEq, Repr

namespace FileTree

/-- The most bytes of a name. -/
def nameLimit : Nat := 255

/-- The most bytes of a path. -/
def pathLimit : Nat := 4095

/-- What stands at a place of a tree. -/
def entry? (tree : FileTree) (place : Place) : Option Entry :=
  if place = [] ∨ place ∈ tree.directories then
    some .directory
  else
    (tree.files.lookup place).map .file

/-- The text of the file to which names lead from a directory. -/
def follow (tree : FileTree) (directory : Place) : List String → Except SystemError String
  | [] => .error .isADirectory
  | name :: rest =>
      if name = "" ∨ name = "." then
        follow tree directory rest
      else if name = ".." then
        follow tree directory.dropLast rest
      else if nameLimit < name.utf8ByteSize then
        .error .nameTooLong
      else
        match tree.entry? (directory ++ [name]) with
        | none => .error .notFound
        | some .directory => follow tree (directory ++ [name]) rest
        | some (.file text) => if rest = [] then .ok text else .error .notADirectory

/-- The text of the file at a path. -/
def read (tree : FileTree) (path : String) : Except SystemError String :=
  if path.contains (Char.ofNat 0) then
    .error .nulInName
  else if path = "" then
    .error .notFound
  else if pathLimit < path.utf8ByteSize then
    .error .nameTooLong
  else
    tree.follow (if path.startsWith "/" then [] else tree.working) (path.splitOn "/")

end FileTree

end RemoteInput
