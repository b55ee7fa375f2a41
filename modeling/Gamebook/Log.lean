/-
  The log of a session.

  A `Record` is an event that is worth telling. Its level, the part of the program that it comes
  from, and its wording are read off the event. Lists of records have the newest one first.
-/
import Gamebook.Library.Error
import Gamebook.Story

namespace Gamebook

/-- How much an event matters. -/
inductive Level where
  | debug
  | info
  | warning
deriving DecidableEq

/-- The name of a level. -/
def Level.text : Level → String
  | debug => "DEBUG"
  | info => "INFO"
  | warning => "WARNING"

/-- An event of a session. -/
inductive Record where
  /-- A text was read as a story of so many blocks. -/
  | parsed (blocks : Nat) (fileId : String)
  /-- A story was registered, in the place of an older one or not. -/
  | loaded (again : Bool) (fileId : String) (blocks : Nat)
  | entered (place : Place)
  | chose (label : String) (destination : Destination)
  /-- An option was left out of its menu, its guard being false. -/
  | hidden (label guard : String)
  /-- Every option of a menu was left out. -/
  | nothingOffered (place : Place)
  | unresolved (destination : Destination) (place : Place) (error : ResolutionError)
  | stepLimitReached (limit : Int) (place : Place)
  | halted (reason : String) (details : Option String)
  /-- The file of settings cannot be used. -/
  | settingsIgnored (path : Path)

namespace Record

/-- The level of an event. -/
def level : Record → Level
  | loaded .. => .info
  | unresolved .. | stepLimitReached .. | settingsIgnored .. => .warning
  | parsed .. | entered .. | chose .. | hidden .. | nothingOffered .. | halted .. => .debug

/-- The part of the program that tells of an event. -/
def source : Record → String
  | parsed .. => "intfic.data.markup_parser"
  | loaded .. => "intfic.data.repositories.story_repo"
  | settingsIgnored .. => "intfic.presentation.cli.config"
  | entered .. | chose .. | hidden .. | nothingOffered .. | unresolved .. | stepLimitReached ..
  | halted .. => "intfic.services.story_engine"

/-- The wording of an event. -/
def message : Record → String
  | parsed blocks fileId => "Parsed " ++ Text.natural blocks ++ " block(s) from " ++ fileId
  | loaded again fileId blocks =>
    (if again then "Reloaded" else "Loaded") ++ " story '" ++ fileId ++ "' ("
      ++ Text.natural blocks ++ " blocks)"
  | entered place => "Entered block " ++ place.text
  | chose label destination => "Chose '" ++ label ++ "' -> " ++ destination.text
  | hidden label guard => "Hiding option '" ++ label ++ "': " ++ guard ++ " is false"
  | nothingOffered place => "All options guarded out in " ++ place.text
  | unresolved destination place error =>
    "Unresolved destination " ++ destination.text ++ " from " ++ place.text ++ ": "
      ++ error.message
  | stepLimitReached limit place =>
    "Step limit of " ++ Text.integer limit ++ " reached in " ++ place.text
  | halted reason details =>
    "Halted: " ++ reason ++
      match details with
      | some details => if details.isEmpty then "" else " (" ++ details ++ ")"
      | none => ""
  | settingsIgnored path => "Ignoring unreadable config " ++ path.text

/-- The event in one piece: level, source and wording. -/
def text (record : Record) : String :=
  record.level.text ++ " " ++ record.source ++ ": " ++ record.message

end Record
end Gamebook
