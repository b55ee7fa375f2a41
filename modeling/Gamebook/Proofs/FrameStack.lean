/-
  Readers that take steps for granted: whole files, over a stack of frames.

  What is open in a story file can be kept as one stack of frames, blocks and conditionals alike.
  Nothing in such a stack says that its frames are in order: it might be empty where a line adds to
  its top, a conditional might stand below a block or lack a condition, and a conditional that is
  closed might have no frame below it.  Each step that takes the contrary for granted has a `Lapse`
  here.

  1. **The frames of a draft** (`Draft.sheet`): the block that is open and its conditionals, the
     innermost on top, which alone may have a row of options that goes on.

  2. **One line** does to the frames of a draft what it does to the draft (`takeLine_eq`).  A line
     that is no option ends the row first, so that the row is empty when a frame is put on top or
     taken away.

  3. **A whole file**: by induction over the lines, reading with a stack is reading with a draft.
     So it ends with a story or with an error that tells of a flaw, and after each line the stack
     has conditionals only, every one with its condition, above one block.

  Here the reading is compared step for step with that of `Markup.readStory`.  That one has a block
  and its conditionals in a record instead of a stack, so that a draft is in order by its type and
  the steps that could fail on a stack are not there.
-/
import Gamebook.Proofs.BlockReading
import Gamebook.Proofs.GrantedLines

namespace Gamebook.Markup

open Gamebook.Text

/-! ## Frames

  Blocks and conditionals are kept alike, with fields that are of use for one of them only. -/

/-- What a frame stands for. -/
inductive FrameKind where
  | block
  | conditional
deriving DecidableEq

/-- A block or a conditional that is open. -/
structure Frame where
  kind : FrameKind
  line : Nat
  name : String := ""
  condition : Option Condition := none
  thenNodes : List Node := []
  /-- The second branch, once it has begun. -/
  elseNodes : Option (List Node) := none
  pending : List Choice := []

/-- Adds nodes to the branch that is being read. -/
def Frame.add (nodes : List Node) (frame : Frame) : Frame :=
  match frame.elseNodes with
  | none => { frame with thenNodes := frame.thenNodes ++ nodes }
  | some others => { frame with elseNodes := some (others ++ nodes) }

/-- Makes one menu of the options in a row, if there are any. -/
def Frame.flush (frame : Frame) : Frame :=
  if frame.pending.isEmpty then frame
  else { frame.add [.menu frame.pending] with pending := [] }

/-- A story file of which some lines have been read. The frame on top of the stack comes first. -/
structure Sheet where
  stack : List Frame := []
  blocks : List Block := []
  /-- The declared entry block and the line that declares it. -/
  entry : Option (String × Nat) := none

/-- Nothing is open, or a block and above it conditionals with their conditions. -/
def IsNested (stack : List Frame) : Prop :=
  stack = [] ∨ ∃ conditionals bottom, stack = conditionals ++ [bottom] ∧ bottom.kind = .block ∧
    ∀ frame ∈ conditionals, frame.kind = .conditional ∧ frame.condition.isSome = true

/-! ## Reading with a stack

  The steps are those of a reader that keeps such a stack.  Where it takes the frame on top, the
  frame below, the condition of a frame or the first block without looking, `top` and `require` look
  for it. -/

namespace Granted

/-- The frame on top of a stack, and those below it. -/
def top (stack : List Frame) : Except (Mishap Flaw) (Frame × List Frame) :=
  match stack with
  | frame :: below => .ok (frame, below)
  | [] => .error (.lapse .noFrame)

/-- Reads a directive outside of the blocks. -/
def heading (directive : Directive) : Option Keyword → Except (Mishap Flaw) Heading
  | some .block =>
    let name := String.ofList directive.arguments
    if isName directive.arguments then .ok (.block name directive)
    else .error (.flaw (directive.argumentFlaw (.invalidBlockName name)))
  | some .entry =>
    let name := String.ofList directive.arguments
    if isName directive.arguments then .ok (.entry name directive)
    else .error (.flaw (directive.argumentFlaw (.invalidEntryName name)))
  | _ => .error (.flaw (directive.flaw (.outsideBlock (String.ofList directive.keyword))))

/-- Takes in a heading on line `number`. -/
def takeHeading (sheet : Sheet) (number : Nat) : Heading → Except (Mishap Flaw) Sheet
  | .block name directive =>
    if sheet.blocks.any (·.name = name) then
      .error (.flaw (directive.argumentFlaw (.duplicateBlock name)))
    else .ok { sheet with stack := { kind := .block, line := number, name } :: sheet.stack }
  | .entry name directive =>
    if sheet.entry.isSome then .error (.flaw (directive.argumentFlaw .duplicateEntry))
    else .ok { sheet with entry := some (name, number) }

/-- Takes in a statement with `frame` on top of the stack, whose row of options has ended if the
    statement is no option. -/
def settle (sheet : Sheet) (number : Nat) (line : List Char) (frame : Frame)
    (below : List Frame) : Statement → Except (Mishap Flaw) Sheet
  | .narrative runs => .ok { sheet with stack := frame.add (runs.map .text) :: below }
  | .change change => .ok { sheet with stack := frame.add [.change change] :: below }
  | .jump destination => .ok { sheet with stack := frame.add [.jump destination] :: below }
  | .option choice =>
    .ok { sheet with stack := { frame with pending := frame.pending ++ [choice] } :: below }
  | .openIf condition =>
    .ok { sheet with
      stack := { kind := .conditional, line := number, condition := some condition } ::
        frame :: below }
  | .elseBranch =>
    match frame.kind with
    | .block => .error (.flaw (misplaced line .elseBranch .strayElse))
    | .conditional =>
      if frame.elseNodes.isSome then .error (.flaw (misplaced line .elseBranch .duplicateElse))
      else .ok { sheet with stack := { frame with elseNodes := some [] } :: below }
  | .closeIf =>
    match frame.kind with
    | .block => .error (.flaw (misplaced line .closeIf .strayEndif))
    | .conditional => do
      let condition ← require .noCondition frame.condition
      let (outer, others) ← top below
      let node := Node.conditional condition frame.thenNodes (frame.elseNodes.getD [])
      .ok { sheet with stack := outer.add [node] :: others }
  | .endBlock =>
    match frame.kind with
    | .conditional =>
      .error (.flaw (misplaced line .endBlock (.endInsideConditional frame.line)))
    | .block =>
      let block : Block := { name := frame.name, nodes := frame.thenNodes, line := frame.line }
      .ok { sheet with stack := below, blocks := sheet.blocks ++ [block] }
  | .block => do
    let bottom ← require .noFrame (frame :: below).getLast?
    .error (.flaw (misplaced line .block (.blockInsideBlock bottom.name)))
  | .entry => .error (.flaw (misplaced line .entry .entryInsideBlock))

/-- Takes in a statement on line `number`, whose text is `line`. -/
def takeStatement (sheet : Sheet) (number : Nat) (line : List Char) (statement : Statement) :
    Except (Mishap Flaw) Sheet := do
  let (frame, below) ← top sheet.stack
  settle sheet number line (if Draft.isOption statement then frame else frame.flush) below statement

/-- From a conditional that has no condition there is a lapse. -/
example :
    takeStatement { stack := [{ kind := .conditional, line := 1 }] } 2 [] .closeIf =
      .error (.lapse .noCondition) := rfl

/-- Takes in line `number`. -/
def takeLine (grammar : Grammar) (sheet : Sheet) (number : Nat) (line : List Char) :
    Except (Mishap Flaw) Sheet :=
  if sheet.stack.isEmpty && isIdle grammar line then .ok sheet
  else if (trim line).head? = some directiveMark then do
    let directive ← divide line
    let keyword ← lapseFree (directive.keyword? grammar)
    if sheet.stack.isEmpty then do
      let heading ← heading directive keyword
      takeHeading sheet number heading
    else match keyword with
      | some keyword => do
        let statement ← statement directive keyword
        takeStatement sheet number line statement
      | none =>
        .error (.flaw (directive.flaw (.unsupportedKeyword (String.ofList directive.keyword))))
  else if sheet.stack.isEmpty then
    .error (.flaw (Flaw.at (indentation line + 1) (trim line) .narrativeOutsideBlock))
  else do
    let runs ← readNarrative grammar line
    takeStatement sheet number line (.narrative runs)

/-- Takes in lines, the first of which has the number `number`; of a flaw the line is told. -/
def takeLines (grammar : Grammar) (sheet : Sheet) :
    (number : Nat) → List (List Char) → Except (Mishap (Nat × Flaw)) Sheet
  | _, [] => .ok sheet
  | number, line :: rest =>
    match takeLine grammar sheet number line with
    | .error (.flaw flaw) => .error (.flaw (number, flaw))
    | .error (.lapse lapse) => .error (.lapse lapse)
    | .ok next => takeLines grammar next (number + 1) rest

/-- The story that has been read, nothing being open any more. Without a declaration the entry
    block is the first one, if there are any. -/
def finish (fileId : String) (sheet : Sheet) : Except (Mishap (Nat × Flaw)) Story :=
  match sheet.stack, sheet.entry with
  | frame :: _, _ =>
    match frame.kind with
    | .conditional => .error (.flaw (frame.line, misplaced [] .openIf .unterminatedConditional))
    | .block =>
      .error (.flaw (frame.line, misplaced [] .block (.unterminatedBlock frame.name)))
  | [], some (name, number) =>
    if sheet.blocks.any (·.name = name) then
      .ok { fileId, blocks := sheet.blocks, entry := some name }
    else .error (.flaw (number, misplaced [] .entry (.undefinedEntry name)))
  | [], none =>
    if sheet.blocks.isEmpty then .ok { fileId, blocks := sheet.blocks, entry := none }
    else do
      let first ← require .noBlock sheet.blocks.head?
      .ok { fileId, blocks := sheet.blocks, entry := some first.name }

/-- Reads lines as the story of a file. -/
def readLines (grammar : Grammar) (fileId : String) (lines : List (List Char)) :
    Except (Mishap (Nat × Flaw)) Story := do
  let sheet ← takeLines grammar {} 1 lines
  finish fileId sheet

/-- Reads a text as the story of a file. -/
def readStory (grammar : Grammar) (fileId text : String) : Except (Mishap ParseError) Story :=
  match readLines grammar fileId (linesOf text.toList) with
  | .ok story => .ok story
  | .error (.flaw (line, flaw)) => .error (.flaw { fileId, line, flaw })
  | .error (.lapse lapse) => .error (.lapse lapse)

end Granted

/-! ## The frames of a draft

  A draft is turned into a stack by putting its conditionals on top of its block.  Adding nodes and
  ending a row of options then concern the frame on top only. -/

/-- The frame of a block, without its options in a row. -/
def OpenBlock.frame (block : OpenBlock) : Frame :=
  { kind := .block, line := block.line, name := block.name, thenNodes := block.nodes }

/-- The frame of a conditional. -/
def OpenConditional.frame (conditional : OpenConditional) : Frame :=
  { kind := .conditional, line := conditional.line, condition := some conditional.condition,
    thenNodes := conditional.thenNodes, elseNodes := conditional.elseNodes }

/-- The frames of a block and its conditionals; the options in a row belong to the one on top. -/
def OpenBlock.frames (block : OpenBlock) : List Frame :=
  match block.conditionals with
  | [] => [{ block.frame with pending := block.pending }]
  | innermost :: outer =>
    { innermost.frame with pending := block.pending } ::
      (outer.map OpenConditional.frame ++ [block.frame])

/-- A draft with its open block as a stack of frames. -/
def Draft.sheet (draft : Draft) : Sheet :=
  { stack := (draft.current.map OpenBlock.frames).getD [], blocks := draft.blocks,
    entry := draft.entry }

theorem OpenBlock.frames_add (nodes : List Node) (block : OpenBlock) :
    (block.add nodes).frames = block.frames.modifyHead (Frame.add nodes) := by
  obtain ⟨name, line, blockNodes, conditionals, pending⟩ := block
  cases conditionals with
  | nil => rfl
  | cons innermost outer =>
    obtain ⟨opened, condition, thenNodes, elseNodes⟩ := innermost
    cases elseNodes <;> rfl

/-- The row of options is ended in the frame on top. -/
theorem OpenBlock.frames_flush (block : OpenBlock) :
    block.flush.frames = block.frames.modifyHead Frame.flush := by
  obtain ⟨name, line, blockNodes, conditionals, pending⟩ := block
  cases pending with
  | nil => cases conditionals <;> rfl
  | cons choice others =>
    cases conditionals with
    | nil => rfl
    | cons innermost outer =>
      obtain ⟨opened, condition, thenNodes, elseNodes⟩ := innermost
      cases elseNodes <;> rfl

/-- With no options in a row, all frames but the one of the block are those of the conditionals. -/
theorem OpenBlock.frames_of_pending {block : OpenBlock} (h : block.pending = []) :
    block.frames = block.conditionals.map OpenConditional.frame ++ [block.frame] := by
  rw [OpenBlock.frames, h]
  cases block.conditionals <;> rfl

/-- The frames of a block are nested. -/
theorem isNested_frames (block : OpenBlock) : IsNested block.frames := by
  obtain ⟨name, line, blockNodes, conditionals, pending⟩ := block
  cases conditionals with
  | nil => exact .inr ⟨[], _, rfl, rfl, nofun⟩
  | cons innermost outer =>
    refine .inr ⟨_ :: outer.map OpenConditional.frame, _, rfl, rfl, ?_⟩
    -- The frame on top and those below it come from conditionals, which have their conditions.
    refine List.forall_mem_cons.2 ⟨⟨rfl, rfl⟩, fun frame hframe => ?_⟩
    obtain ⟨conditional, -, rfl⟩ := List.mem_map.1 hframe
    exact ⟨rfl, rfl⟩

/-- The frames of a draft are nested, if any are open. -/
theorem isNested_sheet (draft : Draft) : IsNested draft.sheet.stack := by
  cases hcurrent : draft.current with
  | none => exact .inl (by rw [Draft.sheet, hcurrent]; rfl)
  | some block =>
    rw [Draft.sheet, hcurrent]
    exact isNested_frames block

/-! ## One line

  In each branch both readers refuse for the same reason, or the stack of the one is the stack of
  the other.  The branches differ in what is open: the reader with a stack asks first whether it is
  empty, the other one has a case for it. -/

namespace Granted

section

variable {draft : Draft} {sheet : Sheet} {block : OpenBlock} {frame : Frame} {below : List Frame}

/-- An option goes on with the row of the frame on top, as it does with that of the block. -/
theorem settle_option (hblocks : sheet.blocks = draft.blocks) (hentry : sheet.entry = draft.entry)
    (hframes : block.frames = frame :: below) (number : Nat) (line : List Char) (choice : Choice) :
    settle sheet number line frame below (.option choice) =
      lapseFree ((draft.takeStatement number line block (.option choice)).map Draft.sheet) := by
  obtain ⟨stack, blocks, entry⟩ := sheet
  cases hblocks
  cases hentry
  obtain ⟨name, opened, nodes, conditionals, pending⟩ := block
  cases conditionals <;> cases hframes <;> rfl

/-- With no options in a row, a statement does to the frames of a block what it does to the
    block. -/
theorem settle_eq (hblocks : sheet.blocks = draft.blocks) (hentry : sheet.entry = draft.entry)
    (hframes : block.frames = frame :: below) (hpending : block.pending = []) (number : Nat)
    (line : List Char) (statement : Statement) :
    settle sheet number line frame below statement =
      lapseFree ((draft.takeStatement number line block statement).map Draft.sheet) := by
  -- What is added to the block is added to the frame on top.
  have hadd (nodes : List Node) : frame.add nodes :: below = (block.add nodes).frames := by
    rw [OpenBlock.frames_add, hframes]
    rfl
  -- As no options are in a row, no frame differs from the one its conditional has.
  have hstack : frame :: below = block.conditionals.map OpenConditional.frame ++ [block.frame] :=
    hframes.symm.trans (OpenBlock.frames_of_pending hpending)
  obtain ⟨stack, blocks, entry⟩ := sheet
  cases hblocks
  cases hentry
  obtain ⟨name, opened, nodes, conditionals, pending⟩ := block
  cases hpending
  cases statement with
  | narrative runs => rw [settle, hadd]; rfl
  | change change => rw [settle, hadd]; rfl
  | jump destination => rw [settle, hadd]; rfl
  | option choice => exact settle_option rfl rfl hframes number line choice
  | openIf condition => rw [settle, hstack]; rfl
  | elseBranch =>
    cases conditionals with
    | nil => cases hframes; rfl
    | cons innermost outer =>
      obtain ⟨begun, condition, thenNodes, elseNodes⟩ := innermost
      cases hframes
      cases elseNodes <;> rfl
  | closeIf =>
    cases conditionals with
    | nil => cases hframes; rfl
    | cons innermost outer =>
      cases hframes
      -- The frame below is the next conditional, or the block when there is none.
      cases outer with
      | nil => rfl
      | cons next others =>
        obtain ⟨begun, condition, thenNodes, elseNodes⟩ := next
        cases elseNodes <;> rfl
  | endBlock => cases conditionals <;> cases hframes <;> rfl
  | block =>
    rw [settle, hstack, List.getLast?_concat]
    rfl
  | entry => rfl

end

/-- A statement does to the frames of a draft what it does to the draft. -/
theorem takeStatement_eq (draft : Draft) (number : Nat) (line : List Char) (block : OpenBlock)
    (statement : Statement) :
    takeStatement (draft.continueWith block).sheet number line statement =
      lapseFree ((draft.takeStatement number line
        (if Draft.isOption statement then block else block.flush) statement).map Draft.sheet) := by
  have hstack : (draft.continueWith block).sheet.stack = block.frames := rfl
  obtain ⟨frame, below, hframes⟩ : ∃ frame below, block.frames = frame :: below := by
    rw [OpenBlock.frames]
    split <;> exact ⟨_, _, rfl⟩
  -- An option leaves the row as it is; any other statement ends it first.
  have hflushed : block.flush.frames = frame.flush :: below := by
    rw [OpenBlock.frames_flush, hframes]
    rfl
  rw [takeStatement, hstack, hframes]
  show settle _ number line _ below statement = _
  cases statement with
  | option choice => exact settle_option rfl rfl hframes number line choice
  | _ => exact settle_eq rfl rfl hflushed block.pending_flush number line _

/-- A heading does to the frames of a draft what it does to the draft. -/
theorem takeHeading_eq {draft : Draft} (hcurrent : draft.current = none) (number : Nat)
    (heading : Heading) :
    takeHeading draft.sheet number heading =
      lapseFree ((draft.takeHeading number heading).map Draft.sheet) := by
  obtain ⟨blocks, entry, current⟩ := draft
  cases hcurrent
  cases heading with
  | block name directive =>
    show (if blocks.any (·.name = name) then _ else _) =
      lapseFree (Except.map _ (if blocks.any (·.name = name) then _ else _))
    split <;> rfl
  | entry name directive =>
    show (if entry.isSome then _ else _) = lapseFree (Except.map _ (if entry.isSome then _ else _))
    split <;> rfl

/-- Outside of the blocks a directive is read as a heading, or not at all. -/
theorem heading_eq {grammar : Grammar} {line : List Char} (hidle : isIdle grammar line = false)
    {directive : Directive} (hline : Directive.ofLine? line = some directive) :
    lapseFree (Heading.read grammar line) =
      lapseFree (directive.keyword? grammar) >>= fun keyword =>
        (heading directive keyword).map some := by
  rw [Heading.read, if_neg (by rw [hidle]; decide), hline]
  dsimp only
  rw [lapseFree_bind]
  congr 1
  funext keyword
  rcases keyword with _ | keyword
  · rfl
  · cases keyword with
    | block =>
      show lapseFree (if isName directive.arguments then _ else _) =
        Except.map some (if isName directive.arguments then _ else _)
      split <;> rfl
    | entry =>
      show lapseFree (if isName directive.arguments then _ else _) =
        Except.map some (if isName directive.arguments then _ else _)
      split <;> rfl
    | _ => rfl

/-- Outside of the blocks a line does to the frames of a draft what it does to the draft. -/
theorem takeLine_eq_of_none (grammar : Grammar) {draft : Draft} (hcurrent : draft.current = none)
    (number : Nat) {line : List Char} (hline : '\n' ∉ line) :
    takeLine grammar draft.sheet number line =
      lapseFree ((draft.takeLine grammar number line).map Draft.sheet) := by
  have hstack : draft.sheet.stack.isEmpty = true := by rw [Draft.sheet, hcurrent]; rfl
  have hread := ofLine?_isSome_iff line
  rw [takeLine, Draft.takeLine, hcurrent, hstack, Bool.true_and]
  dsimp only
  cases hidle : isIdle grammar line with
  | true =>
    rw [Heading.read, if_pos hidle]
    rfl
  | false =>
    rw [if_neg Bool.false_ne_true, lapseFree_map_bind]
    cases hdirective : Directive.ofLine? line with
    -- Narrative outside of a block.
    | none =>
      rw [hdirective] at hread
      rw [if_neg (fun h => Bool.false_ne_true (hread.2 h)), if_pos rfl, Heading.read,
        if_neg (by rw [hidle]; decide), hdirective]
      rfl
    -- A directive, which is a heading or nothing.
    | some directive =>
      rw [hdirective] at hread
      rw [if_pos (hread.1 rfl), divide_eq hline hdirective, heading_eq hidle hdirective]
      show (lapseFree (directive.keyword? grammar) >>= _) = _
      cases lapseFree (directive.keyword? grammar) with
      | error mishap => rfl
      | ok keyword =>
        show (heading directive keyword >>= _) = ((heading directive keyword).map some >>= _)
        cases heading directive keyword with
        | error mishap => rfl
        | ok found => exact takeHeading_eq hcurrent number found

/-- Inside a block a line does to the frames of a draft what it does to the draft. -/
theorem takeLine_eq_of_some (grammar : Grammar) (draft : Draft) (block : OpenBlock)
    (number : Nat) {line : List Char} (hline : '\n' ∉ line) :
    takeLine grammar (draft.continueWith block).sheet number line =
      lapseFree (((draft.continueWith block).takeLine grammar number line).map Draft.sheet) := by
  have hstack : (draft.continueWith block).sheet.stack.isEmpty = false := by
    show block.frames.isEmpty = false
    rw [OpenBlock.frames]
    split <;> rfl
  have hread := ofLine?_isSome_iff line
  have htake : Draft.takeLine grammar (draft.continueWith block) number line =
      Statement.read grammar line >>= fun statement =>
        (draft.continueWith block).takeStatement number line
          (if Draft.isOption statement then block else block.flush) statement := rfl
  rw [takeLine, htake, lapseFree_map_bind, hstack, Statement.read, Bool.false_and,
    if_neg Bool.false_ne_true, if_neg Bool.false_ne_true]
  cases hdirective : Directive.ofLine? line with
  -- Narrative, which adds to the frame on top.
  | none =>
    rw [hdirective] at hread
    rw [if_neg (fun h => Bool.false_ne_true (hread.2 h)), readNarrative_eq, lapseFree_map]
    cases lapseFree (Markup.readNarrative grammar line) with
    | error mishap => rfl
    | ok runs => exact takeStatement_eq (draft.continueWith block) number line block _
  | some directive =>
    rw [hdirective] at hread
    rw [if_pos (hread.1 rfl), divide_eq hline hdirective]
    dsimp only
    rw [lapseFree_bind]
    show (lapseFree (directive.keyword? grammar) >>= _) = _
    cases lapseFree (directive.keyword? grammar) with
    | error mishap => rfl
    | ok keyword =>
      cases keyword with
      | none => rfl
      | some keyword =>
        show (statement directive keyword >>= _) = (lapseFree (directive.statement keyword) >>= _)
        rw [statement_eq (trimLeft_arguments hdirective)]
        cases lapseFree (directive.statement keyword) with
        | error mishap => rfl
        | ok found => exact takeStatement_eq (draft.continueWith block) number line block found

/-- **A line does to the frames of a draft what it does to the draft**, and there is no lapse. -/
theorem takeLine_eq (grammar : Grammar) (draft : Draft) (number : Nat) {line : List Char}
    (hline : '\n' ∉ line) :
    takeLine grammar draft.sheet number line =
      lapseFree ((draft.takeLine grammar number line).map Draft.sheet) := by
  cases hcurrent : draft.current with
  | none => exact takeLine_eq_of_none grammar hcurrent number hline
  | some block =>
    have hdraft : draft = draft.continueWith block := by
      rw [Draft.continueWith, ← hcurrent]
    rw [hdraft]
    exact takeLine_eq_of_some grammar draft block number hline

/-! ## Whole files

  The induction goes over the lines, with any draft to begin with.  The lines hold no line feeds, as
  they have been divided at them; that is what the readers of single lines ask for. -/

/-- Lines one after the other do to the frames of a draft what they do to the draft. -/
theorem takeLines_eq (grammar : Grammar) (draft : Draft) (number : Nat)
    {lines : List (List Char)} (hlines : ∀ line ∈ lines, '\n' ∉ line) :
    takeLines grammar draft.sheet number lines =
      lapseFree ((draft.takeLines grammar number lines).map Draft.sheet) := by
  induction lines generalizing draft number with
  | nil => rfl
  | cons line rest ih =>
    obtain ⟨hline, hrest⟩ := List.forall_mem_cons.1 hlines
    rw [takeLines, Draft.takeLines, takeLine_eq grammar draft number hline]
    cases draft.takeLine grammar number line with
    | error flaw => rfl
    -- The frames go on from those of the next draft.
    | ok next => exact ih next (number + 1) hrest

/-- The first lines of a text, of which none holds a line break. -/
theorem takeLines_eq_of_isPrefix (grammar : Grammar) {text : List Char} {lines : List (List Char)}
    (h : lines <+: linesOf text) :
    takeLines grammar {} 1 lines =
      lapseFree ((Draft.takeLines grammar {} 1 lines).map Draft.sheet) :=
  takeLines_eq grammar {} 1 fun _ hline => (not_mem_of_mem_linesOf (h.subset hline)).1

/-- What is open when there are no more lines is told of alike. -/
theorem finish_eq (fileId : String) (draft : Draft) :
    finish fileId draft.sheet = lapseFree (draft.finish fileId) := by
  obtain ⟨blocks, entry, current⟩ := draft
  cases current with
  -- Either the innermost conditional or the block is told of, and this is the frame on top.
  | some block =>
    obtain ⟨name, line, nodes, conditionals, pending⟩ := block
    cases conditionals <;> rfl
  | none =>
    cases entry with
    | none => cases blocks <;> rfl
    | some declared =>
      obtain ⟨name, number⟩ := declared
      show (if blocks.any (·.name = name) then _ else _) =
        lapseFree (if blocks.any (·.name = name) then _ else _)
      split <;> rfl

/-- The lines of a text are read alike with a stack and with a draft. -/
theorem readLines_eq (grammar : Grammar) (fileId : String) (text : List Char) :
    readLines grammar fileId (linesOf text) =
      lapseFree (Markup.readLines grammar fileId (linesOf text)) := by
  rw [readLines, Markup.readLines, takeLines_eq_of_isPrefix grammar (List.prefix_refl _),
    lapseFree_bind]
  cases Draft.takeLines grammar {} 1 (linesOf text) with
  | error flaw => rfl
  | ok draft => exact finish_eq fileId draft

theorem readStory_eq (grammar : Grammar) (fileId text : String) :
    readStory grammar fileId text = lapseFree (Markup.readStory grammar fileId text) := by
  rw [readStory, Markup.readStory, readLines_eq]
  cases Markup.readLines grammar fileId (linesOf text.toList) <;> rfl

end Granted

/-- **Nothing that is taken for granted fails.**  For every text, read by any grammar as the story
    of any file: reading with all lapses looked for is reading without, and it ends with a story or
    with an error that tells of a flaw; and after any number of lines that have no flaw the frames
    are nested. -/
theorem readStory_without_lapse (grammar : Grammar) (fileId text : String) :
    Granted.readStory grammar fileId text = lapseFree (readStory grammar fileId text) ∧
    ((∃ story, Granted.readStory grammar fileId text = .ok story) ∨
      ∃ error, Granted.readStory grammar fileId text = .error (.flaw error)) ∧
    ∀ lines, lines <+: linesOf text.toList →
      (∃ sheet, Granted.takeLines grammar {} 1 lines = .ok sheet ∧ IsNested sheet.stack) ∨
        ∃ number flaw, Granted.takeLines grammar {} 1 lines = .error (.flaw (number, flaw)) := by
  refine ⟨Granted.readStory_eq grammar fileId text, ?_, fun lines hpre => ?_⟩
  · rw [Granted.readStory_eq]
    exact exists_of_lapseFree _
  · rw [Granted.takeLines_eq_of_isPrefix grammar hpre]
    cases Draft.takeLines grammar {} 1 lines with
    | ok draft => exact .inl ⟨draft.sheet, rfl, isNested_sheet draft⟩
    | error flaw => exact .inr ⟨flaw.1, flaw.2, rfl⟩

/-- A well with a way down for those who have rope enough. -/
def wellText : String :=
  "@block well\n@if counter:rope >= 3\nDown you go.\n@option Climb -> well\n@endif\n@end\n"

theorem readStory_without_lapse_well :
    ((Granted.readStory {} "well" wellText).toOption.map fun story => story.blockNames) =
        some ["well"] ∧
      ∃ sheet, Granted.takeLines {} {} 1 ((linesOf wellText.toList).take 4) = .ok sheet ∧
        IsNested sheet.stack ∧ sheet.stack.length = 2 := by
  obtain ⟨hread, -, htake⟩ := readStory_without_lapse {} "well" wellText
  refine ⟨by rw [hread]; decide +kernel, ?_⟩
  have hfirst : (linesOf wellText.toList).take 4 <+: linesOf wellText.toList :=
    List.take_prefix 4 _
  have hcount : ((Granted.takeLines {} {} 1 ((linesOf wellText.toList).take 4)).toOption.map
      fun sheet => sheet.stack.length) = some 2 := by
    rw [Granted.takeLines_eq_of_isPrefix {} hfirst]
    decide +kernel
  rcases htake _ hfirst with ⟨sheet, hsheet, hnested⟩ | ⟨number, flaw, hflaw⟩
  · rw [hsheet] at hcount
    exact ⟨sheet, hsheet, hnested, Option.some.inj hcount⟩
  · rw [hflaw] at hcount
    cases hcount

end Gamebook.Markup
