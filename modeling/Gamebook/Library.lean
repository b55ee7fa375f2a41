/-
  The stories that are loaded, and how they are loaded and looked up.

  A library keeps one story for each file id. Loading an id again replaces its story, and a text
  that is no story leaves the older one where it is. With `onDemand` set, looking up an id that
  is not loaded loads it from the folder `base`; a failure is not remembered, so the next look-up
  tries again.

  Operations give back the library, what they found or why they did not, and the records of what
  they did.
-/
import Gamebook.Log
import Gamebook.Markup.Document

namespace Gamebook

open Markup (Grammar ParseError readStory)

/-- The loaded stories, and where others are to be found. -/
structure Library where
  grammar : Grammar := {}
  base : Path := {}
  disk : Disk := {}
  /-- Looking up an id that is not loaded loads it. -/
  onDemand : Bool := false
  stories : Table Story := ∅
deriving Inhabited

/-- What an operation on a library gives back. -/
structure Outcome (ε α : Type) where
  result : Except ε α
  library : Library
  log : List Record := []

/-- A block together with the file it was found in. -/
structure Scene where
  fileId : String
  block : Block

/-- The place of a scene. -/
def Scene.place (scene : Scene) : Place := ⟨scene.fileId, scene.block.name⟩

namespace Library

/-! ## Where stories are -/

/-- The folder of the stories: the one given, or else the one that the environment names, or else
    the one that comes with the program. An empty name in the environment names none. -/
def storiesPath (given environment : Option String) (bundled : Path) : Path :=
  match given, environment with
  | some text, _ => .ofString text
  | none, some text => if text.isEmpty then bundled else .ofString text
  | none, none => bundled

/-! ## Loading -/

/-- The story of an id is loaded. -/
def contains (library : Library) (fileId : String) : Bool := library.stories.contains fileId

/-- The ids of the loaded stories in ascending order. -/
def fileIds (library : Library) : List String := library.stories.names

/-- Puts a story under an id, whatever stood there before. -/
def register (library : Library) (fileId : String) (story : Story) : Library :=
  { library with stories := library.stories.insert fileId story }

/-- The record of putting a story under an id. -/
def registration (library : Library) (fileId : String) (story : Story) : Record :=
  .loaded (library.contains fileId) fileId story.blocks.length

/-- Reads a text as a story and puts it under an id. -/
def load (library : Library) (fileId text : String) : Outcome ParseError Story :=
  match readStory library.grammar fileId text with
  | .error error => { result := .error error, library }
  | .ok story =>
    { result := .ok story
      library := library.register fileId story
      log := [library.registration fileId story, .parsed story.blocks.length fileId] }

/-- Where the file of an id is. -/
def pathOf (library : Library) (fileId : String) : Path := library.base.join (.ofString fileId)

/-- Loads the file of an id. -/
def loadFile (library : Library) (fileId : String) : Except Fault (Outcome LoadError Story) :=
  let path := library.pathOf fileId
  if path.hasNul then .error .nulInPath
  else match library.disk.read path with
    | .error failure => .ok { result := .error (.read ⟨failure, path⟩), library }
    | .ok text =>
      let outcome := library.load fileId text
      .ok { outcome with result := outcome.result.mapError .parse }

/-! ## Looking up -/

/-- The story of an id, loaded on demand. -/
def get (library : Library) (fileId : String) : Except Fault (Outcome ResolutionError Story) :=
  match library.stories.get? fileId with
  | some story => .ok { result := .ok story, library }
  | none =>
    if library.onDemand then do
      let outcome ← library.loadFile fileId
      .ok { outcome with result := outcome.result.mapError (.loadFailed fileId) }
    else .ok { result := .error (.unknownFile fileId), library }

/-- The block of a story: the one named, or else the entry block. -/
def blockOf (story : Story) (fileId : String) (block : Option String) :
    Except ResolutionError Scene :=
  match block.or story.entry with
  | none => .error (.noEntry fileId)
  | some name =>
    match story.block? name with
    | some block => .ok ⟨fileId, block⟩
    | none => .error (.noBlock fileId name)

/-- The block of a file: the one named, or else the entry block. -/
def find (library : Library) (fileId : String) (block : Option String) :
    Except Fault (Outcome ResolutionError Scene) := do
  let outcome ← library.get fileId
  .ok { outcome with result := outcome.result.bind (blockOf · fileId block) }

/-- The block that a destination leads to from within a file. -/
def resolve (library : Library) (destination : Destination) (currentFile : String) :
    Except Fault (Outcome ResolutionError Scene) :=
  match destination with
  | .block name => library.find currentFile (some name)
  | .file id block => library.find id block
  | .unknown form => .error (.unsupportedDestination form)

/-! ## Files -/

/-- Changes a file on the disk; the loaded stories stay as they are. -/
def writeFile (library : Library) (location : Location) (content : Content) : Library :=
  { library with disk := library.disk.write location content }

end Library
end Gamebook
