/-
  The files that stories are read from.

  A `Disk` lists files and folders by their places below one root. A path is followed component by
  component, and what stands before the next component has to be a folder, even when the next
  component is a double dot. `Disk.read` gives the text of a file or tells why there is none.
-/
import Gamebook.Disk.Path

namespace Gamebook

/-- What stands at a place. -/
inductive Content where
  | text (content : String)
  /-- A file that is no text. -/
  | undecodable
  | folder
deriving DecidableEq

/-- A place below the root: the names of the folders on the way, and the last name. -/
abbrev Location := List String

/-- Files and folders, each at its place. A folder need not be listed when something in it is. -/
structure Disk where
  contents : List (Location × Content) := []
deriving Inhabited

/-- Why a path leads to no text. -/
inductive ReadFailure where
  | missing
  | undecodable
  | unreadable
deriving DecidableEq

/-- Where a path leads when every folder on the way is there: each double dot leads back out of the
    folder before it. -/
def Path.location (path : Path) : Location :=
  path.components.foldl (fun location name =>
    if name = ".." then location.dropLast else location ++ [name]) []

namespace Disk

/-- What stands at a place, if anything does. -/
def contentAt (disk : Disk) (location : Location) : Option Content :=
  if location.isEmpty then some .folder
  else match disk.contents.lookup location with
    | some content => some content
    | none => if disk.contents.any (location.isPrefixOf ·.1) then some .folder else none

/-- Puts a file or a folder at a place. -/
def write (disk : Disk) (location : Location) (content : Content) : Disk :=
  { contents := (location, content) :: disk.contents.filter (·.1 ≠ location) }

/-- The longest name that a file can have, in bytes. -/
def nameLimit : Nat := 255

/-- The longest path that can be followed, in bytes. -/
def pathLimit : Nat := 4095

/-- Follows names from a place. -/
def follow (disk : Disk) (location : Location) : List String → Except ReadFailure Location
  | [] => .ok location
  | name :: rest =>
    match disk.contentAt location with
    | some .folder =>
      if name = ".." then follow disk location.dropLast rest
      else if name.utf8ByteSize > nameLimit then .error .unreadable
      else follow disk (location ++ [name]) rest
    | some _ => .error .unreadable
    | none => .error .missing

/-- The text of the file that a path leads to. -/
def read (disk : Disk) (path : Path) : Except ReadFailure String :=
  if path.text.utf8ByteSize > pathLimit then .error .unreadable
  else match disk.follow [] path.components with
    | .error failure => .error failure
    | .ok location =>
      match disk.contentAt location with
      | some (.text content) => .ok content
      | some .undecodable => .error .undecodable
      | some .folder => .error .unreadable
      | none => .error .missing

end Disk
end Gamebook
