/-
  Stories: named blocks of nodes, as the reader of story files builds them and a play walks them.

  A node shows text, branches on a condition, changes the state, offers a menu, or jumps to another
  block. `Story.narrative` is the text of a story with everything else left out, the branches of a
  conditional one after the other.
-/
import Gamebook.Condition

namespace Gamebook

/-! ## Destinations -/

/-- Where a jump or a choice leads. -/
inductive Destination where
  /-- A block of the file that is being played. -/
  | block (name : String)
  /-- A block of some file; without a block, the file's entry block. -/
  | file (id : String) (block : Option String)
  /-- Something of another form, known by its text only. -/
  | unknown (form : String)
deriving DecidableEq

/-- The notation of a destination: a block, or a file and a block with a colon between them. -/
def Destination.text : Destination → String
  | .block name => name
  | .file id target => id ++ ":" ++ target.getD ""
  | .unknown form => form

/-! ## Nodes -/

/-- A piece of a narrative line, all of it in one colour. The last piece of a line ends it. -/
structure TextRun where
  content : String
  color : Option String := none
  endsLine : Bool := true
deriving DecidableEq

/-- What a state directive does to its target. -/
inductive Operation where
  | setFlag
  | clearFlag
  | increment
  | decrement
  | setCounter
  /-- A name that stands for no operation. -/
  | other (name : String)
deriving DecidableEq

/-- A change of one flag or one counter. -/
structure StateChange where
  operation : Operation
  target : String
  amount : Option Int := none
deriving DecidableEq

/-- One line of a menu. The keywords are further words that pick it; a keyword that begins with `@`
    names a word list. -/
structure Choice where
  label : String
  destination : Destination
  guard : Option Condition := none
  keywords : List String := []
deriving DecidableEq

/-- One step of a block. -/
inductive Node where
  | text (run : TextRun)
  | conditional (condition : Condition) (thenNodes elseNodes : List Node)
  | change (change : StateChange)
  | menu (choices : List Choice)
  | jump (destination : Destination)
  /-- Something of another form, known by its text only. -/
  | unknown (form : String)

/-! ## Blocks and stories -/

/-- A named sequence of nodes, with the line of its file that opens it. -/
structure Block where
  name : String
  nodes : List Node
  line : Nat := 0

/-- The blocks of a story file in the order of the file, and the block to begin with. -/
structure Story where
  fileId : String
  blocks : List Block := []
  entry : Option String := none

namespace Story

/-- The block of a name. -/
def block? (story : Story) (name : String) : Option Block :=
  story.blocks.find? (·.name = name)

/-- The names of the blocks in the order of the file. -/
def blockNames (story : Story) : List String := story.blocks.map (·.name)

/-- Adds a block after the others; a block of the same name gives way to it where it stands. -/
def putBlock (blocks : List Block) (block : Block) : List Block :=
  if blocks.any (·.name = block.name) then
    blocks.map fun other => if other.name = block.name then block else other
  else blocks ++ [block]

/-- The story of some blocks; of two under one name the later counts. -/
def ofBlocks (fileId : String) (blocks : List Block) (entry : Option String) : Story :=
  { fileId, blocks := blocks.foldl putBlock [], entry }

end Story

/-! ## Narrative -/

mutual

/-- The text of a node, and of both branches of a conditional. -/
def Node.textRuns : Node → List TextRun
  | .text run => [run]
  | .conditional _ thenNodes elseNodes => Node.allTextRuns thenNodes ++ Node.allTextRuns elseNodes
  | .change _ | .menu _ | .jump _ | .unknown _ => []

/-- The text of some nodes in their order. -/
def Node.allTextRuns : List Node → List TextRun
  | [] => []
  | node :: rest => node.textRuns ++ Node.allTextRuns rest

end

/-- The characters of a run, with a line feed after the last run of a line. -/
def TextRun.written (run : TextRun) : String :=
  if run.endsLine then run.content ++ "\n" else run.content

/-- The lines of the story with all markup left out. -/
def Story.narrative (story : Story) : String :=
  String.join <| story.blocks.flatMap fun block =>
    (Node.allTextRuns block.nodes).map TextRun.written

end Gamebook
