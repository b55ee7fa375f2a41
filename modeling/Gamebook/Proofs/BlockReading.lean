/-
  The reader of story files accepts exactly what the grammar derives, and builds exactly its tree.

  The reader is a loop over the lines with an open block, a stack of open conditionals and a row of
  options that is not yet a menu; the grammar is a tree.  The two are tied together piece by piece:

  1. **Completeness (`takeLines_items`)**: on lines that are items the reader gets from any open
     block to one with the nodes of the items added, whatever lines follow.  The row of options is
     the difficulty: it is still open after the last item, so the two blocks are compared after it
     has been made a menu, and a row that is open before must not go on in the first item.
  2. **Soundness (`beginsWithItems_of_closed`)**: lines on which an open block gets closed begin
     with items and a line that closes something.  By strong induction on the number of lines: the
     branches of a conditional and what follows it are shorter, and completeness says where the
     reader stands after each of them.
  3. Both are lifted to whole files (`takeLines_parts`, `exists_parts`).

  `readStory_eq_ok_iff` is the result.

  The loop and the tree disagree on one thing only: when a menu is made.  The tree has it as soon as
  its lines are there; the loop has a row of options, and makes the menu when another line shows
  that the row has ended, or when the block or the branch does.
-/
import Gamebook.Proofs.BlockGrammar

namespace Gamebook.Markup

open Gamebook.Text

/-! ## Open blocks

  Nodes are added to the branch that is open in the innermost conditional, or to the block itself if
  none is open.  All that the proofs need to know of an open block is how adding nodes goes together
  with adding more of them, with opening a conditional and with ending the row of options. -/

namespace OpenBlock

/-- The block with one more conditional open. -/
def push (block : OpenBlock) (conditional : OpenConditional) : OpenBlock :=
  { block with conditionals := conditional :: block.conditionals }

@[simp] theorem add_nil (block : OpenBlock) : block.add [] = block := by
  rcases block with ⟨name, line, nodes, conditionals, pending⟩
  cases conditionals with
  | nil => simp [add]
  | cons innermost outer =>
    rcases innermost with ⟨line, condition, thenNodes, elseNodes⟩
    cases elseNodes <;> simp [add, OpenConditional.add]

/-- Adding twice is adding once, whatever is open. -/
@[simp] theorem add_add (block : OpenBlock) (nodes others : List Node) :
    (block.add nodes).add others = block.add (nodes ++ others) := by
  rcases block with ⟨name, line, before, conditionals, pending⟩
  cases conditionals with
  | nil => simp [add]
  | cons innermost outer =>
    rcases innermost with ⟨line, condition, thenNodes, elseNodes⟩
    cases elseNodes <;> simp [add, OpenConditional.add]

@[simp] theorem pending_add (block : OpenBlock) (nodes : List Node) :
    (block.add nodes).pending = block.pending := by
  rcases block with ⟨name, line, before, conditionals, pending⟩
  cases conditionals <;> rfl

theorem add_push (block : OpenBlock) (conditional : OpenConditional) (nodes : List Node) :
    (block.push conditional).add nodes = block.push (conditional.add nodes) := rfl

theorem flush_of_pending {block : OpenBlock} (h : block.pending = []) : block.flush = block := by
  rw [flush, h]
  rfl

/-- After the row was made a menu there is none. -/
@[simp] theorem pending_flush (block : OpenBlock) : block.flush.pending = [] := by
  rw [flush]
  split
  next h => exact List.isEmpty_iff.1 h
  next => rfl

/-- A row with options becomes a menu of them. -/
theorem flush_row {block : OpenBlock} {choices : List Choice} (hrow : block.pending = [])
    (hsome : choices ≠ []) :
    flush { block with pending := choices } = block.add [.menu choices] := by
  rcases block with ⟨name, line, before, conditionals, pending⟩
  cases hrow
  cases choices with
  | nil => exact absurd rfl hsome
  | cons choice rest => cases conditionals <;> rfl

end OpenBlock

/-! ## One line at a time

  One lemma for each kind of line: from which block to which it leads, in front of any other lines.
  They are the rules of the reader, and the rest of the file does not look into it again. -/

namespace Draft

/-- What is done with a line inside a block is decided by what it says. -/
theorem takeLine_inside {grammar : Grammar} {draft : Draft} {block : OpenBlock} {number : Nat}
    {line : List Char} {statement : Statement} (h : Says grammar line statement) :
    (draft.continueWith block).takeLine grammar number line =
      (draft.continueWith block).takeStatement number line
        (if isOption statement then block else block.flush) statement := by
  rw [takeLine]
  simp only [continueWith, read_eq_ok_iff.2 h, bind, Except.bind]

/-- A line that is taken in, and then the lines behind it. -/
theorem takeLines_of_ok {grammar : Grammar} {draft next : Draft} {number : Nat}
    {line : List Char} {rest : List (List Char)}
    (h : draft.takeLine grammar number line = .ok next) :
    takeLines grammar draft number (line :: rest) = takeLines grammar next (number + 1) rest := by
  rw [takeLines, h]

/-- Lines that follow others are taken in from where the others leave off. -/
theorem takeLines_append {grammar : Grammar} {draft : Draft} {number : Nat}
    (earlier later : List (List Char)) :
    takeLines grammar draft number (earlier ++ later) =
      (takeLines grammar draft number earlier).bind fun next =>
        takeLines grammar next (number + earlier.length) later := by
  induction earlier generalizing draft number with
  | nil => rfl
  | cons line rest ih =>
    rw [List.cons_append, takeLines, takeLines]
    cases draft.takeLine grammar number line with
    | error flaw => rfl
    | ok next =>
      dsimp only
      rw [ih, List.length_cons, Nat.add_right_comm, Nat.add_assoc]

/-- A line that is no option ends the row; a node that it stands for is added to the block. -/
theorem takeLines_node {grammar : Grammar} {draft : Draft} {block : OpenBlock} {number : Nat}
    {line : List Char} {rest : List (List Char)} {statement : Statement} {nodes : List Node}
    (h : Says grammar line statement) (hnode : isOption statement = false)
    (hnext : (draft.continueWith block).takeStatement number line block.flush statement =
      .ok (draft.continueWith (block.flush.add nodes))) :
    takeLines grammar (draft.continueWith block) number (line :: rest) =
      takeLines grammar (draft.continueWith (block.flush.add nodes)) (number + 1) rest := by
  refine takeLines_of_ok ?_
  rw [takeLine_inside h, hnode]
  exact hnext

/-- Options lengthen the row that they stand in. -/
theorem takeLines_row {grammar : Grammar} {draft : Draft} {block : OpenBlock} {number : Nat}
    {lines rest : List (List Char)} {choices : List Choice}
    (h : List.Forall₂ (fun line choice => Says grammar line (.option choice)) lines choices) :
    takeLines grammar (draft.continueWith block) number (lines ++ rest) =
      takeLines grammar
        (draft.continueWith { block with pending := block.pending ++ choices })
        (number + lines.length) rest := by
  induction h generalizing block number with
  | nil => simp
  | cons hline hlines ih =>
    rename_i line choice lines choices
    have hnext : (draft.continueWith block).takeLine grammar number line =
        .ok (draft.continueWith { block with pending := block.pending ++ [choice] }) := by
      rw [takeLine_inside hline]
      rfl
    rw [List.cons_append, takeLines_of_ok hnext, ih]
    simp only [List.append_assoc, List.singleton_append, List.length_cons]
    rw [Nat.add_assoc, Nat.add_comm 1]

/-- A conditional opens: it is put on the stack, and the row has ended. -/
theorem takeLines_openIf {grammar : Grammar} {draft : Draft} {block : OpenBlock} {number : Nat}
    {line : List Char} {rest : List (List Char)} {condition : Condition}
    (h : Says grammar line (.openIf condition)) :
    takeLines grammar (draft.continueWith block) number (line :: rest) =
      takeLines grammar
        (draft.continueWith (block.flush.push { line := number, condition }))
        (number + 1) rest := by
  refine takeLines_of_ok ?_
  rw [takeLine_inside h]
  rfl

/-- The second branch of a conditional begins. -/
theorem takeLines_else {grammar : Grammar} {draft : Draft} {block outer : OpenBlock}
    {number : Nat} {line : List Char} {rest : List (List Char)} {conditional : OpenConditional}
    (h : Says grammar line .elseBranch) (hblock : block.flush = outer.push conditional)
    (hfirst : conditional.elseNodes = none) :
    takeLines grammar (draft.continueWith block) number (line :: rest) =
      takeLines grammar
        (draft.continueWith (outer.push { conditional with elseNodes := some [] }))
        (number + 1) rest := by
  refine takeLines_of_ok ?_
  rw [takeLine_inside h, show isOption .elseBranch = false from rfl, if_neg Bool.false_ne_true,
    hblock]
  simp only [takeStatement, OpenBlock.push, hfirst]
  rfl

/-- A conditional is closed: it becomes a node of what is around it. -/
theorem takeLines_closeIf {grammar : Grammar} {draft : Draft} {block outer : OpenBlock}
    {number : Nat} {line : List Char} {rest : List (List Char)} {conditional : OpenConditional}
    (h : Says grammar line .closeIf) (hblock : block.flush = outer.push conditional) :
    takeLines grammar (draft.continueWith block) number (line :: rest) =
      takeLines grammar (draft.continueWith (outer.add [conditional.node])) (number + 1) rest := by
  refine takeLines_of_ok ?_
  rw [takeLine_inside h, show isOption .closeIf = false from rfl, if_neg Bool.false_ne_true,
    hblock]
  rfl

/-- The end of a block that has no conditional open makes it one of the blocks of the file. -/
theorem takeLines_endBlock {grammar : Grammar} {draft : Draft} {block : OpenBlock} {number : Nat}
    {line : List Char} {rest : List (List Char)} (h : Says grammar line .endBlock)
    (hbare : block.flush.conditionals = []) :
    takeLines grammar (draft.continueWith block) number (line :: rest) =
      takeLines grammar
        { draft with blocks := draft.blocks ++ [block.flush.close], current := none }
        (number + 1) rest := by
  refine takeLines_of_ok ?_
  rw [takeLine_inside h, show isOption .endBlock = false from rfl, if_neg Bool.false_ne_true]
  simp only [takeStatement, hbare]
  rfl

/-! ## Completeness inside a block

  `Adds` says what is to be shown, and there is one lemma for each constructor of `Items`.  The
  number of the line goes along without being looked at, except that it is kept with a conditional
  while that is open, and forgotten when it becomes a node. -/

/-- From an open block, reading the lines leads to one with the nodes added, whatever lines follow.
    The blocks are compared without the rows of options that are still to become menus. -/
def Adds (grammar : Grammar) (block : OpenBlock) (lines : List (List Char)) (nodes : List Node) :
    Prop :=
  ∃ after : OpenBlock, after.flush = block.flush.add nodes ∧
    ∀ (draft : Draft) (number : Nat) (rest : List (List Char)),
      takeLines grammar (draft.continueWith block) number (lines ++ rest) =
        takeLines grammar (draft.continueWith after) (number + lines.length) rest

/-- A line that stands for nodes, in front of lines that do. -/
theorem Adds.cons {grammar : Grammar} {block : OpenBlock} {line : List Char}
    {lines : List (List Char)} {statement : Statement} {nodes others : List Node}
    (hline : Says grammar line statement) (hnode : isOption statement = false)
    (hnext : ∀ (draft : Draft) (number : Nat),
      (draft.continueWith block).takeStatement number line block.flush statement =
        .ok (draft.continueWith (block.flush.add nodes)))
    (hrest : Adds grammar (block.flush.add nodes) lines others) :
    Adds grammar block (line :: lines) (nodes ++ others) := by
  obtain ⟨after, hafter, hlines⟩ := hrest
  refine ⟨after, ?_, fun draft number rest => ?_⟩
  · rw [hafter, OpenBlock.flush_of_pending (by simp), OpenBlock.add_add]
  · rw [List.cons_append, takeLines_node hline hnode (hnext draft number), hlines,
      List.length_cons, Nat.add_assoc, Nat.add_comm 1]

/-- A row of options, in front of lines with which no option goes on. -/
theorem Adds.row {grammar : Grammar} {block : OpenBlock} {row lines : List (List Char)}
    {choices : List Choice} {others : List Node}
    (hlines : List.Forall₂ (fun line choice => Says grammar line (.option choice)) row choices)
    (hsome : choices ≠ []) (hpending : block.pending = [])
    (hrest : Adds grammar { block with pending := choices } lines others) :
    Adds grammar block (row ++ lines) (.menu choices :: others) := by
  obtain ⟨after, hafter, htail⟩ := hrest
  refine ⟨after, ?_, fun draft number rest => ?_⟩
  · rw [hafter, OpenBlock.flush_row hpending hsome, OpenBlock.add_add,
      OpenBlock.flush_of_pending hpending, List.singleton_append]
  · rw [List.append_assoc, takeLines_row hlines, hpending, List.nil_append, htail,
      List.length_append, Nat.add_assoc]

/-- Items that stand in a branch are added to it. -/
theorem Adds.branch {grammar : Grammar} {outer : OpenBlock} {conditional : OpenConditional}
    {body : List (List Char)} {nodes : List Node}
    (hbody : ∀ inner : OpenBlock, inner.pending = [] → Adds grammar inner body nodes)
    (houter : outer.pending = []) :
    ∃ inner : OpenBlock, inner.flush = outer.push (conditional.add nodes) ∧
      ∀ (draft : Draft) (number : Nat) (rest : List (List Char)),
        takeLines grammar (draft.continueWith (outer.push conditional)) number (body ++ rest) =
          takeLines grammar (draft.continueWith inner) (number + body.length) rest := by
  have hpushed : (outer.push conditional).pending = [] := houter
  obtain ⟨inner, hinner, hlines⟩ := hbody (outer.push conditional) hpushed
  rw [OpenBlock.flush_of_pending hpushed, OpenBlock.add_push] at hinner
  exact ⟨inner, hinner, hlines⟩

/-- A conditional with its first branch alone, in front of other lines. -/
theorem Adds.conditional {grammar : Grammar} {block : OpenBlock} {opener closer : List Char}
    {condition : Condition} {body lines : List (List Char)} {thenNodes others : List Node}
    (hopener : Says grammar opener (.openIf condition))
    (hbody : ∀ inner : OpenBlock, inner.pending = [] → Adds grammar inner body thenNodes)
    (hcloser : Says grammar closer .closeIf)
    (hrest : Adds grammar (block.flush.add [.conditional condition thenNodes []]) lines others) :
    Adds grammar block (opener :: body ++ closer :: lines)
      (.conditional condition thenNodes [] :: others) := by
  obtain ⟨after, hafter, htail⟩ := hrest
  refine ⟨after, ?_, fun draft number rest => ?_⟩
  · rw [hafter, OpenBlock.flush_of_pending (by simp), OpenBlock.add_add, List.singleton_append]
  · obtain ⟨inner, hinner, hlines⟩ := Adds.branch hbody (OpenBlock.pending_flush block)
    rw [List.cons_append, List.cons_append, takeLines_openIf hopener, List.append_assoc, hlines,
      List.cons_append, takeLines_closeIf hcloser hinner]
    -- The conditional that gets closed has the number of its line, which its node does not have.
    have hnode : (OpenConditional.add thenNodes { line := number, condition }).node =
        .conditional condition thenNodes [] := rfl
    rw [hnode, htail]
    congr 1
    simp only [List.length_cons, List.length_append]
    omega

/-- A conditional with both branches, in front of other lines. -/
theorem Adds.conditionalElse {grammar : Grammar} {block : OpenBlock}
    {opener divider closer : List Char} {condition : Condition}
    {body second lines : List (List Char)} {thenNodes elseNodes others : List Node}
    (hopener : Says grammar opener (.openIf condition))
    (hbody : ∀ inner : OpenBlock, inner.pending = [] → Adds grammar inner body thenNodes)
    (hdivider : Says grammar divider .elseBranch)
    (hsecond : ∀ inner : OpenBlock, inner.pending = [] → Adds grammar inner second elseNodes)
    (hcloser : Says grammar closer .closeIf)
    (hrest :
      Adds grammar (block.flush.add [.conditional condition thenNodes elseNodes]) lines others) :
    Adds grammar block (opener :: body ++ divider :: second ++ closer :: lines)
      (.conditional condition thenNodes elseNodes :: others) := by
  obtain ⟨after, hafter, htail⟩ := hrest
  refine ⟨after, ?_, fun draft number rest => ?_⟩
  · rw [hafter, OpenBlock.flush_of_pending (by simp), OpenBlock.add_add, List.singleton_append]
  · obtain ⟨inner, hinner, hlines⟩ := Adds.branch hbody (OpenBlock.pending_flush block)
    obtain ⟨last, hlast, hothers⟩ := Adds.branch hsecond (OpenBlock.pending_flush block)
    have hsplit : opener :: body ++ divider :: second ++ closer :: lines ++ rest =
        opener :: (body ++ divider :: (second ++ closer :: (lines ++ rest))) := by
      simp
    -- Four stages: it opens, the first branch, the second branch, it closes.
    rw [hsplit, takeLines_openIf hopener, hlines, takeLines_else hdivider hinner rfl, hothers,
      takeLines_closeIf hcloser hlast]
    have hnode : (OpenConditional.add elseNodes
        { OpenConditional.add thenNodes { line := number, condition } with
          elseNodes := some [] }).node = .conditional condition thenNodes elseNodes := rfl
    rw [hnode, htail]
    congr 1
    simp only [List.length_cons, List.length_append]
    omega

/-- **Lines that are items add their nodes to the block that is open.** A row of options that was
    open before must not go on in them. -/
theorem takeLines_items {grammar : Grammar} {lines : List (List Char)} {nodes : List Node}
    (h : Items grammar lines nodes) (block : OpenBlock)
    (hrow : block.pending = [] ∨ ¬ BeginsWithOption grammar lines) :
    Adds grammar block lines nodes := by
  induction h generalizing block with
  | nil => exact ⟨block, by simp, fun draft number rest => rfl⟩
  | narrative hline _ ih =>
    exact Adds.cons hline rfl (fun _ _ => rfl) (ih _ (.inl (by simp)))
  | change hline _ ih =>
    exact Adds.cons hline rfl (fun _ _ => rfl) (ih _ (.inl (by simp)))
  | jump hline _ ih =>
    exact Adds.cons hline rfl (fun _ _ => rfl) (ih _ (.inl (by simp)))
  | @menu row choices rest nodes hlines hsome hmaximal _ ih =>
    -- A row that is open would go on in the first option of this one, and this is excluded.
    have hpending : block.pending = [] := by
      rcases hrow with hrow | hrow
      · exact hrow
      · cases hlines with
        | nil => exact absurd rfl hsome
        | cons hline _ => exact absurd ⟨_, _, rfl, hline⟩ hrow
    exact Adds.row hlines hsome hpending (ih _ (.inr hmaximal))
  | conditional hopener _ hcloser _ ihbody ihrest =>
    exact Adds.conditional hopener (fun inner hinner => ihbody inner (.inl hinner)) hcloser
      (ihrest _ (.inl (by simp)))
  | conditionalElse hopener _ hdivider _ hcloser _ ihbody ihothers ihrest =>
    exact Adds.conditionalElse hopener (fun inner hinner => ihbody inner (.inl hinner)) hdivider
      (fun inner hinner => ihothers inner (.inl hinner)) hcloser (ihrest _ (.inl (by simp)))

/-! ## Soundness inside a block

  Now the reader has accepted the lines, and the tree is to be found.  It is enough to find out that
  there is one: what it looks like for the reader is known from the other direction. -/

theorem exists_of_takeLines_cons {grammar : Grammar} {draft final : Draft} {number : Nat}
    {line : List Char} {rest : List (List Char)}
    (h : takeLines grammar draft number (line :: rest) = .ok final) :
    ∃ next, draft.takeLine grammar number line = .ok next ∧
      takeLines grammar next (number + 1) rest = .ok final := by
  rw [takeLines] at h
  cases hnext : draft.takeLine grammar number line with
  | error flaw => rw [hnext] at h; cases h
  | ok next => rw [hnext] at h; exact ⟨next, rfl, h⟩

/-- A line that is taken in inside a block says something. -/
theorem exists_of_takeLine_inside {grammar : Grammar} {draft next : Draft} {block : OpenBlock}
    {number : Nat} {line : List Char}
    (h : (draft.continueWith block).takeLine grammar number line = .ok next) :
    ∃ statement, Says grammar line statement ∧
      (draft.continueWith block).takeStatement number line
        (if isOption statement then block else block.flush) statement = .ok next := by
  cases hread : Statement.read grammar line with
  | error flaw =>
    rw [takeLine] at h
    simp [continueWith, hread, bind, Except.bind] at h
  | ok statement =>
    have hsays := read_eq_ok_iff.1 hread
    rw [takeLine_inside hsays] at h
    exact ⟨statement, hsays, h⟩

/-- A line that closes a branch or the block. -/
def Closes (statement : Statement) : Prop :=
  statement = .elseBranch ∨ statement = .closeIf ∨ statement = .endBlock

/-- With a conditional open a block cannot end, and a second branch is the last one. -/
theorem closeIf_of_closes {grammar : Grammar} {draft final : Draft} {block outer : OpenBlock}
    {number : Nat} {line : List Char} {rest : List (List Char)} {conditional : OpenConditional}
    {statement : Statement}
    (h : takeLines grammar (draft.continueWith block) number (line :: rest) = .ok final)
    (hblock : block.flush = outer.push conditional) (hline : Says grammar line statement)
    (hcloses : Closes statement) :
    statement = .closeIf ∨ statement = .elseBranch ∧ conditional.elseNodes = none := by
  obtain ⟨next, hnext, -⟩ := exists_of_takeLines_cons h
  rw [takeLine_inside hline] at hnext
  rcases hcloses with rfl | rfl | rfl
  · rw [show isOption .elseBranch = false from rfl, if_neg Bool.false_ne_true, hblock] at hnext
    cases helse : conditional.elseNodes with
    | none => exact .inr ⟨rfl, rfl⟩
    | some others => simp [takeStatement, OpenBlock.push, helse] at hnext
  · exact .inl rfl
  · rw [show isOption .endBlock = false from rfl, if_neg Bool.false_ne_true, hblock] at hnext
    simp [takeStatement, OpenBlock.push] at hnext

/-- Lines that begin with items and a line that closes what the items stand in. -/
def BeginsWithItems (grammar : Grammar) (lines : List (List Char)) : Prop :=
  ∃ body nodes closer statement rest, lines = body ++ closer :: rest ∧
    Items grammar body nodes ∧ Says grammar closer statement ∧ Closes statement

/-- An item of one line may stand in front. -/
theorem BeginsWithItems.cons {grammar : Grammar} {line : List Char} {lines : List (List Char)}
    (h : BeginsWithItems grammar lines)
    (hitem : ∀ {body : List (List Char)} {nodes : List Node}, Items grammar body nodes →
      ∃ others, Items grammar (line :: body) others) : BeginsWithItems grammar (line :: lines) := by
  obtain ⟨body, nodes, closer, statement, rest, rfl, hbody, hcloser⟩ := h
  obtain ⟨others, hothers⟩ := hitem hbody
  exact ⟨line :: body, others, closer, statement, rest, rfl, hothers, hcloser⟩

/-- The lines after an opened conditional are its branches, the end of it, and what follows, when
    each stretch of them begins with items. -/
theorem beginsWithItems_of_openIf {grammar : Grammar} {draft final : Draft} {outer : OpenBlock}
    {number : Nat} {opener : List Char} {tail : List (List Char)} {conditional : OpenConditional}
    (hopener : Says grammar opener (.openIf conditional.condition)) (houter : outer.pending = [])
    (hfirst : conditional.elseNodes = none)
    (h : takeLines grammar (draft.continueWith (outer.push conditional)) number tail = .ok final)
    (ih : ∀ (block : OpenBlock) (number : Nat) (lines : List (List Char)),
      lines.length ≤ tail.length →
      takeLines grammar (draft.continueWith block) number lines = .ok final →
      BeginsWithItems grammar lines) :
    BeginsWithItems grammar (opener :: tail) := by
  obtain ⟨body, nodes, closer, statement, rest, rfl, hbody, hcloser, hcloses⟩ :=
    ih _ _ tail (Nat.le_refl _) h
  have hlength : rest.length < (body ++ closer :: rest).length := by
    rw [List.length_append, List.length_cons]
    omega
  obtain ⟨inner, hinner, hlines⟩ :=
    Adds.branch (fun inner hinner => takeLines_items hbody inner (.inl hinner)) houter
  rw [hlines] at h
  have helse : (conditional.add nodes).elseNodes = none := by
    rw [OpenConditional.add, hfirst]
  -- The first branch is followed by the end of the conditional, or by its second branch.
  rcases closeIf_of_closes h hinner hcloser hcloses with rfl | ⟨rfl, -⟩
  · rw [takeLines_closeIf hcloser hinner] at h
    obtain ⟨next, others, last, statement, rest, rfl, hnext, hlast⟩ :=
      ih _ _ rest (Nat.le_of_lt hlength) h
    refine ⟨_, _, last, statement, rest, ?_, .conditional hopener hbody hcloser hnext, hlast⟩
    simp
  · rw [takeLines_else hcloser hinner helse] at h
    obtain ⟨second, others, last, statement, rest', rfl, hsecond, hlast, hcloses⟩ :=
      ih _ _ rest (Nat.le_of_lt hlength) h
    have hlength' : rest'.length ≤ (body ++ closer :: (second ++ last :: rest')).length := by
      simp only [List.length_append, List.length_cons]
      omega
    obtain ⟨inner', hinner', hlines'⟩ :=
      Adds.branch (fun inner hinner => takeLines_items hsecond inner (.inl hinner)) houter
    rw [hlines'] at h
    -- The second branch is followed by the end, since there is no third one.
    rcases closeIf_of_closes h hinner' hlast hcloses with rfl | ⟨-, hnone⟩
    · rw [takeLines_closeIf hlast hinner'] at h
      obtain ⟨next, others, ending, statement, rest, rfl, hnext, hending⟩ := ih _ _ rest' hlength' h
      refine ⟨_, _, ending, statement, rest, ?_,
        .conditionalElse hopener hbody hcloser hsecond hlast hnext, hending⟩
      simp
    · cases hnone

/-- **Lines on which an open block gets closed begin with items and a line that closes.** -/
theorem beginsWithItems_of_closed {grammar : Grammar} {draft final : Draft} {block : OpenBlock}
    {number : Nat} {lines : List (List Char)}
    (h : takeLines grammar (draft.continueWith block) number lines = .ok final)
    (hclosed : final.current = none) : BeginsWithItems grammar lines := by
  induction hlength : lines.length using Nat.strongRecOn generalizing block number lines with
  | ind length ih =>
    cases lines with
    -- Without a line nothing is closed.
    | nil =>
      cases h
      cases hclosed
    | cons line tail =>
      -- what follows the first line is shorter, from whatever block it is read
      have htail : ∀ (block : OpenBlock) (number : Nat) (lines : List (List Char)),
          lines.length ≤ tail.length →
          takeLines grammar (draft.continueWith block) number lines = .ok final →
          BeginsWithItems grammar lines := by
        intro block number lines hle hlines
        rw [List.length_cons] at hlength
        exact ih lines.length (by omega) hlines rfl
      obtain ⟨next, hnext, hrest⟩ := exists_of_takeLines_cons h
      obtain ⟨statement, hline, hnext⟩ := exists_of_takeLine_inside hnext
      cases statement with
      | narrative runs =>
        cases hnext
        exact (htail _ _ _ (Nat.le_refl _) hrest).cons fun hbody => ⟨_, .narrative hline hbody⟩
      | option choice =>
        cases hnext
        exact (htail _ _ _ (Nat.le_refl _) hrest).cons fun hbody => hbody.cons_option hline
      | change change =>
        cases hnext
        exact (htail _ _ _ (Nat.le_refl _) hrest).cons fun hbody => ⟨_, .change hline hbody⟩
      | jump destination =>
        cases hnext
        exact (htail _ _ _ (Nat.le_refl _) hrest).cons fun hbody => ⟨_, .jump hline hbody⟩
      | openIf condition =>
        cases hnext
        exact beginsWithItems_of_openIf hline (OpenBlock.pending_flush block) rfl hrest htail
      | elseBranch => exact ⟨[], [], line, _, tail, rfl, .nil, hline, .inl rfl⟩
      | closeIf => exact ⟨[], [], line, _, tail, rfl, .nil, hline, .inr (.inl rfl)⟩
      | endBlock => exact ⟨[], [], line, _, tail, rfl, .nil, hline, .inr (.inr rfl)⟩
      | block => cases hnext
      | entry => cases hnext

/-! ## Whole files

  Outside of the blocks the reader has nothing open, and what it keeps are the blocks and the entry
  so far.  Both directions are by induction, in one case on how the lines are a file and in the
  other on their number. -/

/-- The names that were declared as the entry, of which there is one at most. -/
def declared (draft : Draft) : List String := draft.entry.toList.map Prod.fst

/-- An idle line changes nothing. -/
theorem takeLine_of_idle {grammar : Grammar} {draft : Draft} {number : Nat} {line : List Char}
    (houtside : draft.current = none) (h : IsIdle grammar line) :
    draft.takeLine grammar number line = .ok draft := by
  rw [takeLine]
  simp only [houtside, heading_read_of_idle h, bind, Except.bind]

/-- A line that announces something is taken in as a heading. -/
theorem takeLine_of_announces {grammar : Grammar} {draft : Draft} {number : Nat}
    {line : List Char} {heading : Heading} (houtside : draft.current = none)
    (h : Announces grammar line heading) :
    draft.takeLine grammar number line = draft.takeHeading number heading := by
  rw [takeLine]
  simp only [houtside, heading_read_of_announces h, bind, Except.bind]

/-- A name is free exactly when no block has it. -/
theorem any_name_eq_false_iff {blocks : List Block} {name : String} :
    blocks.any (fun block => decide (block.name = name)) = false ↔
      name ∉ blocks.map Block.name := by
  rw [List.any_eq_false, List.mem_map]
  constructor
  · rintro h ⟨block, hblock, rfl⟩
    exact h block hblock (decide_eq_true rfl)
  · intro h block hblock hname
    exact h ⟨block, hblock, of_decide_eq_true hname⟩

/-- A block with a new name opens, with nothing in it. -/
theorem takeHeading_block {draft : Draft} {number : Nat} {name : String} {directive : Directive}
    (hnew : name ∉ draft.blocks.map Block.name) :
    draft.takeHeading number (.block name directive) =
      .ok (draft.continueWith { name, line := number }) := by
  simp only [takeHeading, any_name_eq_false_iff.2 hnew]
  rfl

/-- From an open block with nothing in it, items and the end of the block complete it. -/
theorem takeLines_body {grammar : Grammar} {draft : Draft} {number line : Nat}
    {closer : List Char} {name : String} {body rest : List (List Char)} {nodes : List Node}
    (hbody : Items grammar body nodes) (hcloser : Says grammar closer .endBlock) :
    takeLines grammar (draft.continueWith { name, line }) number (body ++ closer :: rest) =
      takeLines grammar
        { draft with blocks := draft.blocks ++ [{ name, nodes, line }], current := none }
        (number + body.length + 1) rest := by
  obtain ⟨after, hafter, hlines⟩ := takeLines_items hbody { name, line } (.inl rfl)
  rw [hlines, takeLines_endBlock hcloser (by rw [hafter]; rfl), hafter]
  rfl

/-- **Completeness for whole files**: lines that are a file are taken in up to their end, provided
    that their blocks have new names and that no second entry is declared. -/
theorem takeLines_parts {grammar : Grammar} {number : Nat} {lines : List (List Char)}
    {blocks : List Block} {entries : List String} (h : Parts grammar number lines blocks entries)
    (draft : Draft) (houtside : draft.current = none)
    (hnames : ((draft.blocks ++ blocks).map Block.name).Nodup)
    (hentries : (draft.declared ++ entries).length ≤ 1) :
    ∃ final, takeLines grammar draft number lines = .ok final ∧ final.current = none ∧
      final.blocks = draft.blocks ++ blocks ∧ final.declared = draft.declared ++ entries := by
  induction h generalizing draft with
  | nil => exact ⟨draft, rfl, houtside, by simp, by simp⟩
  | idle hline _ ih =>
    rw [takeLines_of_ok (takeLine_of_idle houtside hline)]
    exact ih draft houtside hnames hentries
  | @entry number line name directive rest blocks entries hline _ ih =>
    have hnone : draft.entry = none := by
      cases hentry : draft.entry with
      | none => rfl
      | some entry =>
        simp [declared, hentry] at hentries
    have htake : draft.takeLine grammar number line =
        .ok { draft with entry := some (name, number) } := by
      rw [takeLine_of_announces houtside hline]
      simp only [takeHeading, hnone]
      rfl
    rw [takeLines_of_ok htake]
    obtain ⟨final, hfinal, hclosed, hblocks, hdeclared⟩ :=
      ih { draft with entry := some (name, number) } houtside hnames
        (by simpa [declared, hnone] using hentries)
    refine ⟨final, hfinal, hclosed, hblocks, ?_⟩
    rw [hdeclared]
    simp [declared, hnone]
  | @block number opener closer name directive body rest nodes blocks entries hopener hbody hcloser
      _ ih =>
    -- The name is new, because the names of all blocks together are different.
    have hnew : name ∉ draft.blocks.map Block.name := by
      rw [List.map_append, List.map_cons, List.nodup_append] at hnames
      exact fun hmem => hnames.2.2 name hmem name List.mem_cons_self rfl
    have htake : draft.takeLine grammar number opener =
        .ok (draft.continueWith { name, line := number }) := by
      rw [takeLine_of_announces houtside hopener, takeHeading_block hnew]
    rw [List.cons_append, takeLines_of_ok htake, takeLines_body hbody hcloser]
    obtain ⟨final, hfinal, hclosed, hblocks, hdeclared⟩ :=
      ih { draft with blocks := draft.blocks ++ [{ name, nodes, line := number }], current := none }
        rfl (by simpa using hnames) hentries
    rw [List.append_assoc, List.singleton_append] at hblocks
    refine ⟨final, ?_, hclosed, hblocks, hdeclared⟩
    rw [← hfinal]
    congr 1
    omega

/-- What the reader does with an accepted line outside of the blocks. -/
theorem cases_of_takeLine_outside {grammar : Grammar} {draft next : Draft} {number : Nat}
    {line : List Char} (houtside : draft.current = none)
    (h : draft.takeLine grammar number line = .ok next) :
    IsIdle grammar line ∧ next = draft ∨
    (∃ name directive, Announces grammar line (.block name directive) ∧
      name ∉ draft.blocks.map Block.name ∧
      next = draft.continueWith { name, line := number }) ∨
    ∃ name directive, Announces grammar line (.entry name directive) ∧ draft.entry = none ∧
      next = { draft with entry := some (name, number) } := by
  cases hread : Heading.read grammar line with
  | error flaw =>
    rw [takeLine] at h
    simp [houtside, hread, bind, Except.bind] at h
  | ok heading =>
    rcases announces_of_read hread with ⟨rfl, hidle⟩ | ⟨announced, rfl, hannounces⟩
    · rw [takeLine_of_idle houtside hidle] at h
      exact .inl ⟨hidle, (Except.ok.inj h).symm⟩
    · rw [takeLine_of_announces houtside hannounces] at h
      cases announced with
      | block name directive =>
        rw [takeHeading] at h
        split at h
        next => cases h
        next hany =>
          refine .inr (.inl ⟨name, directive, hannounces, ?_, (Except.ok.inj h).symm⟩)
          exact any_name_eq_false_iff.1 (Bool.eq_false_iff.2 hany)
      | entry name directive =>
        rw [takeHeading] at h
        split at h
        next => cases h
        next hsome =>
          refine .inr (.inr ⟨name, directive, hannounces, ?_, (Except.ok.inj h).symm⟩)
          rwa [Bool.not_eq_true, Option.isSome_eq_false_iff, Option.isNone_iff_eq_none] at hsome

/-- A block that was opened with nothing in it gets completed by items and its end. -/
theorem exists_body {grammar : Grammar} {draft final : Draft} {number line : Nat} {name : String}
    {tail : List (List Char)}
    (h : takeLines grammar (draft.continueWith { name, line }) number tail = .ok final)
    (hclosed : final.current = none) :
    ∃ body nodes closer rest, tail = body ++ closer :: rest ∧ Items grammar body nodes ∧
      Says grammar closer .endBlock := by
  obtain ⟨body, nodes, closer, statement, rest, rfl, hbody, hcloser, hcloses⟩ :=
    beginsWithItems_of_closed h hclosed
  obtain ⟨after, hafter, hlines⟩ := takeLines_items hbody { name, line } (.inl rfl)
  have hbare : after.flush.conditionals = [] := by
    rw [hafter]
    rfl
  rw [hlines] at h
  obtain ⟨next, hnext, -⟩ := exists_of_takeLines_cons h
  rw [takeLine_inside hcloser] at hnext
  -- Nothing but the end of the block can close it, for no conditional is open.
  rcases hcloses with rfl | rfl | rfl
  · simp [isOption, takeStatement, hbare] at hnext
  · simp [isOption, takeStatement, hbare] at hnext
  · exact ⟨body, nodes, closer, rest, rfl, hbody, hcloser⟩

/-- **Soundness for whole files**: lines that are taken in up to their end, with no block left
    open, are a file; the names of the blocks and of the entry have been looked at. -/
theorem exists_parts {grammar : Grammar} {draft final : Draft} {number : Nat}
    {lines : List (List Char)} (h : takeLines grammar draft number lines = .ok final)
    (houtside : draft.current = none) (hclosed : final.current = none)
    (hnames : (draft.blocks.map Block.name).Nodup) :
    ∃ blocks entries, Parts grammar number lines blocks entries ∧
      final.blocks = draft.blocks ++ blocks ∧ final.declared = draft.declared ++ entries ∧
      (final.blocks.map Block.name).Nodup := by
  induction hlength : lines.length using Nat.strongRecOn generalizing draft number lines with
  | ind length ih =>
    cases lines with
    | nil =>
      cases h
      exact ⟨[], [], .nil, by simp, by simp, hnames⟩
    | cons line tail =>
      rw [List.length_cons] at hlength
      obtain ⟨next, hnext, htail⟩ := exists_of_takeLines_cons h
      rcases cases_of_takeLine_outside houtside hnext with ⟨hidle, rfl⟩ |
        ⟨name, directive, hopener, hnew, rfl⟩ | ⟨name, directive, hentry, hnone, rfl⟩
      · obtain ⟨blocks, entries, hparts, hrest⟩ :=
          ih tail.length (by omega) htail houtside hnames rfl
        exact ⟨blocks, entries, .idle hidle hparts, hrest⟩
      -- A block: its lines are taken off in one piece, so what is left is shorter by more than one.
      · obtain ⟨body, nodes, closer, rest, rfl, hbody, hcloser⟩ := exists_body htail hclosed
        rw [takeLines_body hbody hcloser] at htail
        have hshorter : rest.length < length := by
          rw [List.length_append, List.length_cons] at hlength
          omega
        have hadded : ((draft.blocks ++ [{ name, nodes, line := number : Block }]).map
            Block.name).Nodup := by
          rw [List.map_append, List.nodup_append]
          refine ⟨hnames, List.nodup_cons.2 ⟨List.not_mem_nil, List.nodup_nil⟩, ?_⟩
          rintro other hother _ hname rfl
          rw [List.mem_singleton.1 hname] at hother
          exact hnew hother
        obtain ⟨blocks, entries, hparts, hblocks, hdeclared, hfinal⟩ :=
          ih rest.length hshorter htail rfl hadded rfl
        refine ⟨{ name, nodes, line := number } :: blocks, entries,
          .block hopener hbody hcloser ?_, ?_, hdeclared, hfinal⟩
        · rw [show number + body.length + 2 = number + 1 + body.length + 1 from by omega]
          exact hparts
        · rw [hblocks, List.append_assoc, List.singleton_append]
      · obtain ⟨blocks, entries, hparts, hblocks, hdeclared, hfinal⟩ :=
          ih tail.length (by omega) htail houtside hnames rfl
        refine ⟨blocks, name :: entries, .entry hentry hparts, hblocks, ?_, hfinal⟩
        rw [hdeclared]
        simp [declared, hnone]

end Draft

/-! ## The story of a text

  What is left to look at when all lines are read: whether a block is open, and whether the declared
  entry is one of the blocks. -/

/-- A draft is a story when nothing is open in it and its declared entry, if any, is a block. -/
theorem finish_eq_ok_iff {draft : Draft} {fileId : String} {story : Story} :
    draft.finish fileId = .ok story ↔
      draft.current = none ∧ (∀ entry ∈ draft.declared, entry ∈ draft.blocks.map Block.name) ∧
        story = { fileId, blocks := draft.blocks,
                  entry := draft.declared.head?.or (draft.blocks.head?.map Block.name) } := by
  rcases draft with ⟨blocks, entry, current⟩
  cases current with
  | some block => exact ⟨nofun, nofun⟩
  | none =>
    cases entry with
    | none =>
      constructor
      · intro h
        exact ⟨rfl, nofun, (Except.ok.inj h).symm⟩
      · rintro ⟨-, -, rfl⟩
        rfl
    | some entry =>
      obtain ⟨name, number⟩ := entry
      cases hany : blocks.any (fun block => decide (block.name = name)) with
      | false =>
        have hfree := Draft.any_name_eq_false_iff.1 hany
        rw [Draft.finish]
        simp only [hany]
        exact ⟨nofun, fun h => absurd (h.2.1 name (by simp [Draft.declared])) hfree⟩
      | true =>
        have hmem : name ∈ blocks.map Block.name := by
          by_contra hfree
          rw [Draft.any_name_eq_false_iff.2 hfree] at hany
          cases hany
        have hfinish : Draft.finish fileId ⟨blocks, some (name, number), none⟩ =
            .ok { fileId, blocks, entry := some name } := by
          rw [Draft.finish]
          simp only [hany]
          rfl
        rw [hfinish]
        constructor
        · intro h
          refine ⟨rfl, fun entry hentry => ?_, (Except.ok.inj h).symm⟩
          rw [List.mem_singleton.1 hentry]
          exact hmem
        · rintro ⟨-, -, rfl⟩
          rfl

/-- Lines are read as the story that they are, and other lines are not read at all. -/
theorem readLines_eq_ok_iff {grammar : Grammar} {fileId : String} {lines : List (List Char)}
    {story : Story} :
    readLines grammar fileId lines = .ok story ↔ IsStory grammar fileId lines story := by
  constructor
  · intro h
    rw [readLines] at h
    cases hfinal : Draft.takeLines grammar {} 1 lines with
    | error flaw => rw [hfinal] at h; cases h
    | ok final =>
      rw [hfinal] at h
      obtain ⟨hclosed, hentry, rfl⟩ := finish_eq_ok_iff.1 h
      obtain ⟨blocks, entries, hparts, hblocks, hdeclared, hnames⟩ :=
        Draft.exists_parts hfinal rfl hclosed List.nodup_nil
      rw [show ({} : Draft).blocks ++ blocks = blocks from rfl] at hblocks
      rw [show ({} : Draft).declared ++ entries = entries from rfl] at hdeclared
      rw [hblocks] at hentry hnames
      rw [hdeclared] at hentry
      refine ⟨blocks, entries, hparts, hnames, ?_, hentry, by rw [hblocks, hdeclared]⟩
      rw [← hdeclared, Draft.declared, List.length_map]
      cases final.entry <;> simp
  · rintro ⟨blocks, entries, hparts, hnames, hentries, hentry, rfl⟩
    obtain ⟨final, hfinal, hclosed, hblocks, hdeclared⟩ :=
      Draft.takeLines_parts hparts {} rfl hnames hentries
    rw [readLines, hfinal]
    refine finish_eq_ok_iff.2 ⟨hclosed, ?_, ?_⟩
    · rw [hblocks, hdeclared]
      exact hentry
    · rw [hblocks, hdeclared]
      rfl

/-- An accepted text is the story of its lines. -/
theorem isStory_of_readStory {grammar : Grammar} {fileId text : String} {story : Story}
    (h : readStory grammar fileId text = .ok story) :
    IsStory grammar fileId (linesOf text.toList) story := by
  rw [readStory] at h
  split at h
  next read hread =>
    cases h
    exact readLines_eq_ok_iff.1 hread
  next => cases h

/-- **The reader accepts exactly the texts whose lines are a story, and gives back that story.** -/
theorem readStory_eq_ok_iff (grammar : Grammar) (fileId text : String) (story : Story) :
    readStory grammar fileId text = .ok story ↔
      IsStory grammar fileId (linesOf text.toList) story := by
  constructor
  · exact isStory_of_readStory
  · intro h
    rw [readStory, readLines_eq_ok_iff.2 h]

end Gamebook.Markup
