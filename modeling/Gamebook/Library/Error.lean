/-
  What can go wrong between a destination and its block: the file cannot be read, its text is no
  story, or the story has no such block.
-/
import Gamebook.Disk
import Gamebook.Markup.Problem

namespace Gamebook

/-! ## Reading and loading -/

/-- Why the text of a story file cannot be had. -/
structure ReadError where
  failure : ReadFailure
  path : Path
deriving DecidableEq

/-- The wording of a reading error. -/
def ReadError.message (error : ReadError) : String :=
  match error.failure with
  | .missing => "Story file not found: " ++ error.path.text
  | .undecodable => "Story file is not valid UTF-8: " ++ error.path.text
  | .unreadable => "Unable to read story file: " ++ error.path.text

/-- Why a story file cannot be loaded. -/
inductive LoadError where
  | read (error : ReadError)
  | parse (error : Markup.ParseError)
deriving DecidableEq

/-- The wording of a loading error. -/
def LoadError.message : LoadError → String
  | .read error => error.message
  | .parse error => error.message

/-! ## Resolving -/

/-- Why a destination leads to no block. -/
inductive ResolutionError where
  /-- The file is not loaded, and files are not loaded on demand. -/
  | unknownFile (fileId : String)
  | loadFailed (fileId : String) (cause : LoadError)
  | noEntry (fileId : String)
  | noBlock (fileId block : String)
deriving DecidableEq

namespace ResolutionError

/-- The wording of a resolution error. -/
def message : ResolutionError → String
  | unknownFile fileId => "Unknown story file '" ++ fileId ++ "'"
  | loadFailed fileId cause => "Could not load story file '" ++ fileId ++ "': " ++ cause.message
  | noEntry fileId => "Story file '" ++ fileId ++ "' has no entry block"
  | noBlock fileId block => "Story file '" ++ fileId ++ "' has no block named '" ++ block ++ "'"

/-- The file that was looked for. -/
def fileId : ResolutionError → String
  | unknownFile id => id
  | loadFailed id _ => id
  | noEntry id => id
  | noBlock id _ => id

/-- The block that its file does not have. -/
def block? : ResolutionError → Option String
  | noBlock _ block => some block
  | _ => none

/-- The loading error behind it. -/
def cause? : ResolutionError → Option LoadError
  | loadFailed _ cause => some cause
  | _ => none

end ResolutionError
end Gamebook
