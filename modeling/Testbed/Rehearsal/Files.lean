/-
This file defines trees of files for rehearsals and how a path leads through one: every name on the
way but the last is that of a directory. The entries above an entry are directories.
-/

import Testbed.Text.Blank
import Testbed.Text.Excerpt

namespace Testbed.Rehearsal

/-- A name in a tree. -/
abbrev Name := List Char

/-- What stands at a place of a tree. -/
inductive Entry where
  | directory
  | file (content : List UInt8)
  deriving DecidableEq, Repr

/-- Why a file is not read. -/
inductive FileFault where
  | missing
  | notADirectory
  | isADirectory
  | nameTooLong
  | unusablePath
  deriving DecidableEq, Repr

/-- The words for an unread file. -/
def FileFault.message : FileFault → String
  | missing => "No such file or directory (os error 2)"
  | notADirectory => "Not a directory (os error 20)"
  | isADirectory => "Is a directory (os error 21)"
  | nameTooLong => "File name too long (os error 36)"
  | unusablePath => "file name contained an unexpected NUL byte"

/-- A tree of files: the places that are laid down, and what stands there. -/
structure FileTree where
  entries : List (List Name × Entry) := []

namespace FileTree

/-- The names on the way that a path describes; a single dot and nothing stay where they are. -/
def names (path : List Char) : List Name :=
  (Text.splitAt '/' path).filter fun name => !name.isEmpty && name != ['.']

/-- The tree with an entry at a path. -/
def put (tree : FileTree) (path : String) (entry : Entry) : FileTree where
  entries := (names path.toList, entry) :: tree.entries

/-- What stands at a place. The root and every place above an entry are directories. -/
def entry? (tree : FileTree) (place : List Name) : Option Entry :=
  if place.isEmpty then some .directory
  else match tree.entries.find? fun entry => entry.1 == place with
    | some (_, entry) => some entry
    | none =>
      if tree.entries.any fun entry => place.isPrefixOf entry.1 then some .directory else none

/-- The most bytes of a name. -/
def nameLimit : Nat := 255

/-- The most bytes of a path. -/
def pathLimit : Nat := 4095

/-- The place to which the rest of a path leads. -/
def follow (tree : FileTree) (place : List Name) : List Name → Except FileFault (List Name)
  | [] => .ok place
  | name :: rest =>
    match tree.entry? place with
    | none => .error .missing
    | some (.file _) => .error .notADirectory
    | some .directory =>
      if name.isEmpty || name == ['.'] then tree.follow place rest
      else if nameLimit < Text.byteCount name then .error .nameTooLong
      else tree.follow (place ++ [name]) rest

/-- The content of the file to which a path leads. -/
def read (tree : FileTree) (path : String) : Except FileFault (List UInt8) :=
  if path.toList.contains '\x00' then .error .unusablePath
  else if pathLimit < Text.byteCount path.toList then .error .nameTooLong
  else match tree.follow [] (Text.splitAt '/' path.toList) with
    | .error fault => .error fault
    | .ok place =>
      match tree.entry? place with
      | none => .error .missing
      | some .directory => .error .isADirectory
      | some (.file content) => .ok content

end FileTree

end Testbed.Rehearsal
