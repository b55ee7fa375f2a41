/-
  A story file while it is being read.

  A `Draft` holds the blocks that are complete and, at most, one that is open. An open block
  keeps its open conditionals, the innermost one first, and the options that were read in a row
  and are to become one menu. Every line but an option ends that row, so the options always
  belong to the innermost conditional.
-/
import Gamebook.Markup.Statement

namespace Gamebook.Markup

open Gamebook.Text

/-! ## Open conditionals -/

/-- A conditional whose end has not been read. -/
structure OpenConditional where
  line : Nat
  condition : Condition
  thenNodes : List Node := []
  /-- The second branch, once it has begun. -/
  elseNodes : Option (List Node) := none

/-- Adds nodes to the branch that is being read. -/
def OpenConditional.add (nodes : List Node) (conditional : OpenConditional) : OpenConditional :=
  match conditional.elseNodes with
  | none => { conditional with thenNodes := conditional.thenNodes ++ nodes }
  | some others => { conditional with elseNodes := some (others ++ nodes) }

/-- The conditional with both branches; a branch that was not begun is empty. -/
def OpenConditional.node (conditional : OpenConditional) : Node :=
  .conditional conditional.condition conditional.thenNodes (conditional.elseNodes.getD [])

/-! ## The open block -/

/-- A block whose end has not been read. -/
structure OpenBlock where
  name : String
  line : Nat
  nodes : List Node := []
  conditionals : List OpenConditional := []
  pending : List Choice := []

namespace OpenBlock

/-- Adds nodes where the block is being read: to its innermost conditional, or to itself. -/
def add (nodes : List Node) (block : OpenBlock) : OpenBlock :=
  match block.conditionals with
  | [] => { block with nodes := block.nodes ++ nodes }
  | innermost :: outer => { block with conditionals := innermost.add nodes :: outer }

/-- Makes one menu of the options in a row, if there are any. -/
def flush (block : OpenBlock) : OpenBlock :=
  if block.pending.isEmpty then block
  else { block.add [.menu block.pending] with pending := [] }

/-- The block, its end having been read. -/
def close (block : OpenBlock) : Block :=
  { name := block.name, nodes := block.nodes, line := block.line }

end OpenBlock

/-! ## The draft -/

/-- A story file of which some lines have been read. -/
structure Draft where
  blocks : List Block := []
  /-- The declared entry block and the line that declares it. -/
  entry : Option (String × Nat) := none
  current : Option OpenBlock := none

/-- The flaw that a directive stands in the wrong place. -/
def misplaced (line : List Char) (keyword : Keyword) (problem : Problem) : Flaw :=
  Flaw.at (indentation line + 1) (directiveMark :: keyword.text.toList) problem

namespace Draft

/-- Takes in a heading on line `number`. -/
def takeHeading (draft : Draft) (number : Nat) : Heading → Except Flaw Draft
  | .block name directive =>
    if draft.blocks.any (·.name = name) then
      .error (directive.argumentFlaw (.duplicateBlock name))
    else .ok { draft with current := some { name, line := number } }
  | .entry name directive =>
    if draft.entry.isSome then .error (directive.argumentFlaw .duplicateEntry)
    else .ok { draft with entry := some (name, number) }

/-- The draft with its open block in this shape. -/
def continueWith (draft : Draft) (block : OpenBlock) : Draft := { draft with current := some block }

/-- Takes in a statement other than an option inside `block`, whose row of options has ended. The
    statement stands on line `number`, whose text is `line`. -/
def takeStatement (draft : Draft) (number : Nat) (line : List Char) (block : OpenBlock) :
    Statement → Except Flaw Draft
  | .narrative runs => .ok (draft.continueWith (block.add (runs.map .text)))
  | .change change => .ok (draft.continueWith (block.add [.change change]))
  | .jump destination => .ok (draft.continueWith (block.add [.jump destination]))
  | .option choice =>
    .ok (draft.continueWith { block with pending := block.pending ++ [choice] })
  | .openIf condition =>
    .ok (draft.continueWith
      { block with conditionals := { line := number, condition } :: block.conditionals })
  | .elseBranch =>
    match block.conditionals with
    | [] => .error (misplaced line .elseBranch .strayElse)
    | innermost :: outer =>
      if innermost.elseNodes.isSome then .error (misplaced line .elseBranch .duplicateElse)
      else .ok (draft.continueWith
        { block with conditionals := { innermost with elseNodes := some [] } :: outer })
  | .closeIf =>
    match block.conditionals with
    | [] => .error (misplaced line .closeIf .strayEndif)
    | innermost :: outer =>
      .ok (draft.continueWith ({ block with conditionals := outer }.add [innermost.node]))
  | .endBlock =>
    match block.conditionals with
    | [] => .ok { draft with blocks := draft.blocks ++ [block.close], current := none }
    | innermost :: _ => .error (misplaced line .endBlock (.endInsideConditional innermost.line))
  | .block => .error (misplaced line .block (.blockInsideBlock block.name))
  | .entry => .error (misplaced line .entry .entryInsideBlock)

/-- The statement goes on with a row of options. -/
def isOption : Statement → Bool
  | .option _ => true
  | _ => false

/-- Takes in line `number`. -/
def takeLine (grammar : Grammar) (draft : Draft) (number : Nat) (line : List Char) :
    Except Flaw Draft :=
  match draft.current with
  | none => do
    match ← Heading.read grammar line with
    | none => .ok draft
    | some heading => draft.takeHeading number heading
  | some block => do
    let statement ← Statement.read grammar line
    let block := if isOption statement then block else block.flush
    draft.takeStatement number line block statement

/-- Takes in lines, the first of which has the number `number`; of a flaw the line is told. -/
def takeLines (grammar : Grammar) (draft : Draft) :
    (number : Nat) → List (List Char) → Except (Nat × Flaw) Draft
  | _, [] => .ok draft
  | number, line :: rest =>
    match draft.takeLine grammar number line with
    | .error flaw => .error (number, flaw)
    | .ok next => takeLines grammar next (number + 1) rest

/-- The flaw that something is left open at the end, which shows at the line that opened it. -/
def openFlaw (block : OpenBlock) : Nat × Flaw :=
  match block.conditionals with
  | innermost :: _ => (innermost.line, misplaced [] .openIf .unterminatedConditional)
  | [] => (block.line, misplaced [] .block (.unterminatedBlock block.name))

/-- The story that has been read. Without a declaration the entry block is the first one. -/
def finish (fileId : String) (draft : Draft) : Except (Nat × Flaw) Story :=
  match draft.current, draft.entry with
  | some block, _ => .error (openFlaw block)
  | none, some (name, number) =>
    if draft.blocks.any (·.name = name) then
      .ok { fileId, blocks := draft.blocks, entry := some name }
    else .error (number, misplaced [] .entry (.undefinedEntry name))
  | none, none =>
    .ok { fileId, blocks := draft.blocks, entry := draft.blocks.head?.map (·.name) }

end Draft
end Gamebook.Markup
