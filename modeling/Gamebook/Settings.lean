/-
  What a reader has set for all sessions: how text appears.

  The settings are kept in a file. A file that is missing sets nothing; a file that cannot be
  used is told of in the log and sets nothing; a mode that is unknown stands for the default.
-/
import Gamebook.Console
import Gamebook.Log
import Gamebook.Settings.Value

namespace Gamebook

/-- The settings of a reader. -/
structure Settings where
  textMode : TextMode := .instant
deriving DecidableEq, Inhabited

namespace Settings

/-- The name under which the mode is kept. -/
def textModeField : String := "text_display_mode"

/-- The mode that a value stands for. -/
def normalize : Option Value → TextMode
  | some (.string name) => (TextMode.ofText? name).getD .instant
  | _ => .instant

/-- The settings that a value holds. -/
def ofValue (value : Value) : Settings := ⟨normalize (value.field? textModeField)⟩

/-- Where the settings are kept below a home. -/
def pathBelow (home : Path) : Path := home.join (.ofString ".config/intfic/config.json")

/-- The settings in the file `path`, which holds `content`, or is missing. -/
def load (path : Path) (content : Option Content) : Settings × List Record :=
  match content with
  | none => ({}, [])
  | some (.text text) =>
    match Value.read? text.toList with
    | some value => (ofValue value, [])
    | none => ({}, [.settingsIgnored path])
  | some _ => ({}, [.settingsIgnored path])

/-- The settings as they are kept. -/
def written (settings : Settings) : String :=
  "\x7b\n  \"" ++ textModeField ++ "\": \"" ++ settings.textMode.text ++ "\"\n\x7d"

/-- What the file `path`, which holds `content` or is missing, holds when the settings have been
    kept in it. A folder in its place stays. -/
def save (settings : Settings) (path : Path) (content : Option Content) : Except Fault String :=
  if content = some .folder then .error (.folderInTheWay path.text) else .ok settings.written

end Settings
end Gamebook
