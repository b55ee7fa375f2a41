/-
  How the cursors of a play fit its status, its place and its state.

  The status of a play repeats what its cursors say: how far the block has come, and what is
  offered.  Its place repeats what was entered last, and so does the progress that its state
  records.  Whatever is done to a play of stories that were read, in whatever order and whether it
  succeeds or not, all of these agree:

  * `Cursor.Nested`: the lowest cursor walks the block, and each other one walks a branch of the
    conditional that the cursor below it has just passed.
  * `Play.IsPlaced`: what agrees with what, and with the blocks that were entered (`Play.visits`).
  * `execute_placed`: the step lemma, one case for each kind of node.
  * `coversSteps_kept`: so this is a history, if the blocks entered in between are counted in.
  * `performAll_placed`: what it means for every play that a caller can get to.

  Going from one block to another has a fault only where the current file is not loaded and cannot
  have a path.  Here no file id is excluded, so what a step needs is that the current file is loaded
  (`Play.IsSupplied`).  A file that was entered is, and a library never drops one
  (`Outcome.Supplies`).
-/
import Gamebook.Proofs.Histories
import Gamebook.Proofs.SoundPlay

namespace Gamebook

open Markup

/-! ## Stacks of cursors

  Of a block only the nodes matter here.  The lowest cursor walks them and is never dropped while
  the play is in the block.  Each cursor above it has been put there by a conditional that the one
  below it has just passed, so the stack tells the way into the nested branches. -/

namespace Cursor

/-- The node passed last. -/
def passed? (cursor : Cursor) : Option Node :=
  match cursor.index with
  | 0 => none
  | index + 1 => cursor.nodes[index]?

/-- The cursors of a play that is in a block of these nodes: the lowest one walks the nodes, and
    each other one walks a branch of the conditional that the one below it has just passed. -/
inductive Nested (nodes : List Node) : List Cursor → Prop
  | block (index : Nat) : Nested nodes [{ nodes, index }]
  | branch {inner outer : Cursor} {rest : List Cursor} {condition : Condition}
      {thenNodes elseNodes : List Node} (hrest : Nested nodes (outer :: rest))
      (hpassed : outer.passed? = some (.conditional condition thenNodes elseNodes))
      (hbranch : inner.nodes = thenNodes ∨ inner.nodes = elseNodes) :
      Nested nodes (inner :: outer :: rest)

theorem passed?_advance {cursor : Cursor} {node : Node} (h : cursor.next? = some node) :
    cursor.advance.passed? = some node := h

/-- The cursor that gave a node is on top, and has just passed it. Those that had none are dropped,
    and what was below them stays nested. -/
theorem nested_of_takeNode {nodes : List Node} {cursors rest : List Cursor} {node : Node}
    (h : Nested nodes cursors) (htake : takeNode cursors = some (node, rest)) :
    Nested nodes rest ∧ ∃ top outer, rest = top :: outer ∧ top.passed? = some node := by
  induction h with
  | block index =>
    rw [takeNode] at htake
    cases hnext : Cursor.next? { nodes, index } with
    | none =>
      rw [hnext] at htake
      cases htake
    | some next =>
      rw [hnext] at htake
      cases htake
      exact ⟨.block (index + 1), _, _, rfl, passed?_advance hnext⟩
  | @branch inner outer below _ _ _ hrest hpassed hbranch ih =>
    rw [takeNode] at htake
    cases hnext : inner.next? with
    | none =>
      rw [hnext] at htake
      -- The branch is exhausted, so the node comes from further down.
      exact ih htake
    | some next =>
      rw [hnext] at htake
      cases htake
      exact ⟨.branch hrest hpassed hbranch, _, _, rfl, passed?_advance hnext⟩

end Cursor

/-! ## Libraries that keep what they have

  That a destination can be looked up without a fault is known of files whose id can be part of a
  path.  Here an id may be anything, so another reason is needed: a file that is loaded is not
  looked for on the disk at all.  The current file is loaded because a block of it was entered, and
  it stays loaded because no operation of a library drops a story. -/

/-- What came out leaves the library sound and with all that it had, and a value that was found
    stands in this relation to the library as it then is. -/
structure Outcome.Supplies {ε α : Type} (before : Library) (good : Library → α → Prop)
    (outcome : Outcome ε α) : Prop where
  sound : outcome.library.IsSound
  kept : ∀ id, before.contains id = true → outcome.library.contains id = true
  good : ∀ value, outcome.result = .ok value → good outcome.library value

namespace Library

variable {library : Library} {fileId : String}

/-- The story comes from lines, and is in the library under this id. -/
def Has (fileId : String) (library : Library) (story : Story) : Prop :=
  library.contains fileId = true ∧ story.IsRead

/-- The block has nodes that come from lines, and its file is loaded. -/
def HasScene (library : Library) (scene : Scene) : Prop :=
  library.contains scene.fileId = true ∧ ∀ node ∈ scene.block.nodes, node.IsRead

/-- Registering a story adds its file and drops none. -/
theorem contains_register (story : Story) (id : String) :
    (library.register fileId story).contains id =
      (decide (id = fileId) || library.contains id) := by
  rw [contains, register, Table.contains, Table.get?_insert, contains, Table.contains]
  by_cases h : id = fileId <;> simp [h]

/-- Looking for a story drops none, and one that is found is in the library afterwards, whether or
    not it was before. -/
theorem supplies_of_finds (h : library.IsSound) {ε : Type} {outcome : Outcome ε Story}
    (hfinds : outcome.Finds library fileId) : outcome.Supplies library (Has fileId) := by
  cases hfinds with
  | present hstory =>
    refine ⟨h, fun _ => id, fun story hsame => ?_⟩
    cases hsame
    exact ⟨by rw [contains, Table.contains, hstory, Option.isSome_some], h.isRead hstory⟩
  | absent error => exact ⟨h, fun _ => id, fun _ hok => by cases hok⟩
  | loaded hread =>
    refine ⟨h.register hread fileId, fun id hid => ?_, fun story hsame => ?_⟩
    · rw [contains_register, hid, Bool.or_true]
    · cases hsame
      refine ⟨?_, isRead_of_readStory hread⟩
      rw [contains_register, decide_eq_true rfl, Bool.true_or]

/-- Looking for a block drops no story, and the file of a block that is found is loaded then. -/
theorem supplies_find (h : library.IsSound) {block : Option String}
    {outcome : Outcome ResolutionError Scene} (hfind : library.find fileId block = .ok outcome) :
    outcome.Supplies library HasScene := by
  obtain ⟨found, hfinds, rfl⟩ := exists_get_of_find hfind
  have hsupplies := supplies_of_finds h hfinds
  refine ⟨hsupplies.sound, hsupplies.kept, fun scene hscene => ?_⟩
  obtain ⟨story, hstory, hblock⟩ := bind_eq_ok_iff.1 hscene
  obtain ⟨hfile, hmem⟩ := blockOf_eq_ok hblock
  obtain ⟨hloaded, hread⟩ := hsupplies.good story hstory
  exact ⟨hfile ▸ hloaded, hread scene.block hmem⟩

/-- A block of a file that is loaded can be looked for without a fault, though it may not be found.
    -/
theorem exists_find_of_contains (hfile : library.contains fileId = true) (block : Option String) :
    ∃ outcome, library.find fileId block = .ok outcome := by
  obtain ⟨story, hstory⟩ := Option.isSome_iff_exists.1 hfile
  refine ⟨_, bind_eq_ok_iff.2 ⟨{ result := .ok story, library }, ?_, rfl⟩⟩
  rw [get, hstory]

/-- **A destination of a story has no fault within a file that is loaded**, whatever the id of the
    file is. -/
theorem exists_resolve_of_contains (h : library.IsSound) {destination : Destination}
    (hdestination : destination.IsNulFree) {currentFile : String}
    (hfile : library.contains currentFile = true) :
    ∃ outcome, library.resolve destination currentFile = .ok outcome ∧
      outcome.Supplies library HasScene := by
  cases destination with
  | block name =>
    -- Here the id need not be free of NUL: a file that is loaded is never looked for on the disk.
    obtain ⟨outcome, hfind⟩ := exists_find_of_contains hfile (some name)
    exact ⟨outcome, hfind, supplies_find h hfind⟩
  | file id block =>
    obtain ⟨outcome, hfind, -⟩ := exists_find h hdestination block
    exact ⟨outcome, hfind, supplies_find h hfind⟩
  | unknown form => exact absurd hdestination id

end Library

/-! ## What agrees with what

  The invariant has three layers.  `StatusFits` and `IsRooted` are what is claimed: they compare the
  play with itself and with the blocks that were entered.  `IsSupplied` is what the next step needs
  so that it can be claimed of the next play, too; it speaks of the library and of the nodes at
  hand. -/

namespace Play

/-- The status of the play is the one that its cursors and its place call for. -/
structure StatusFits (play : Play) : Prop where
  /-- A play has halted just when it has no cursor. -/
  halted : (∃ halt, play.status = .halted halt) ↔ play.cursors = []
  /-- A running play tells its place, and how far the lowest cursor has come. -/
  running : ∀ place index, play.status = .running place index →
    place = play.place ∧ ∃ bottom, play.cursors.getLast? = some bottom ∧ index = bottom.index
  /-- A waiting play tells its place, and offers something, all of it from the menu that the
      innermost cursor has just passed and in its order. -/
  waiting : ∀ place choices, play.status = .awaitingChoice place choices →
    place = play.place ∧ choices ≠ [] ∧ ∃ top outer menu, play.cursors = top :: outer ∧
      top.passed? = some (.menu menu) ∧ choices.Sublist menu

/-- The cursors of the play stand in the block that was entered last, which is where the play says
    that it is, and its state says the same. Blocks have the one entered last first. -/
structure IsRooted (play : Play) (entered : List Scene) : Prop where
  stack : play.cursors ≠ [] → ∃ scene earlier, entered = scene :: earlier ∧
    scene.place = play.place ∧ Cursor.Nested scene.block.nodes play.cursors
  progress : play.state.progress = play.place

/-- The play agrees with itself, and with the blocks that it has entered. -/
structure IsPlaced (play : Play) (entered : List Scene) : Prop extends
  play.StatusFits, play.IsRooted entered

/-- What the next step needs: the library is sound, and once a block is entered its file is loaded
    and the nodes at hand come from lines. -/
structure IsSupplied (play : Play) : Prop where
  library : play.library.IsSound
  file : play.cursors ≠ [] → play.library.contains play.place.file = true
  nodes : ∀ cursor ∈ play.cursors, ∀ node ∈ cursor.nodes, node.IsRead

/-- The invariant of all acts. -/
structure IsKept (play : Play) (entered : List Scene) : Prop where
  placed : play.IsPlaced entered
  supplied : play.IsSupplied

variable {play : Play} {entered : List Scene}

/-- At the beginning nothing is entered, and the state has to agree with that. -/
theorem isKept_fresh {library : Library} (h : library.IsSound) {state : State}
    (hprogress : state.progress = {}) : (fresh library state).IsKept [] where
  placed :=
    { halted := ⟨fun _ => rfl, fun _ => ⟨_, rfl⟩⟩
      running := nofun
      waiting := nofun
      stack := fun hsome => absurd rfl hsome
      progress := hprogress }
  supplied := ⟨h, fun hsome => absurd rfl hsome, nofun⟩

/-- A halted play has no cursor, so nothing is asked of the blocks that were entered. -/
theorem isKept_halt (hlibrary : play.library.IsSound) (hprogress : play.state.progress = play.place)
    (halt : Halt) : (play.halt halt).IsKept entered where
  placed :=
    { halted := ⟨fun _ => rfl, fun _ => ⟨halt, rfl⟩⟩
      running := nofun
      waiting := nofun
      stack := fun hsome => absurd rfl hsome
      progress := hprogress }
  supplied := ⟨hlibrary, fun hsome => absurd rfl hsome, nofun⟩

/-- A play with a cursor whose status is another one than halted. -/
theorem halted_iff_of_live (hcursors : play.cursors ≠ [])
    (hlive : ∀ halt, play.status ≠ .halted halt) :
    (∃ halt, play.status = .halted halt) ↔ play.cursors = [] := by
  constructor
  · rintro ⟨halt, hhalt⟩
    exact absurd hhalt (hlive halt)
  · intro hnil
    exact absurd hnil hcursors

/-- Entering a block replaces all cursors, so nothing needs to be known of those before; the block
    goes in front of those that were entered. -/
theorem isKept_enter (hlibrary : play.library.IsSound) {scene : Scene}
    (hscene : play.library.HasScene scene) : (play.enter scene).IsKept (scene :: entered) where
  placed :=
    { halted := halted_iff_of_live (List.cons_ne_nil _ _) fun _ h => by cases h
      running := fun place index h => by cases h; exact ⟨rfl, _, rfl, rfl⟩
      waiting := nofun
      stack := fun _ => ⟨scene, entered, rfl, rfl, .block 0⟩
      progress := rfl }
  supplied := by
    refine ⟨hlibrary, fun _ => hscene.1, fun cursor hcursor => ?_⟩
    rw [List.mem_singleton.1 hcursor]
    exact hscene.2

/-- Nothing but the progress of the state is looked at. -/
theorem IsKept.withState (h : play.IsKept entered) {state : State}
    (hprogress : state.progress = play.state.progress) : IsKept { play with state } entered :=
  ⟨⟨⟨h.placed.halted, h.placed.running, h.placed.waiting⟩,
    h.placed.stack, hprogress.trans h.placed.progress⟩,
    h.supplied.library, h.supplied.file, h.supplied.nodes⟩

/-- Whatever the library did, the play goes on with it. -/
theorem IsKept.absorb (h : play.IsKept entered) {ε α : Type} {good : Library → α → Prop}
    {outcome : Outcome ε α} (houtcome : outcome.Supplies play.library good) :
    (play.absorb outcome).IsKept entered :=
  ⟨⟨⟨h.placed.halted, h.placed.running, h.placed.waiting⟩, h.placed.stack, h.placed.progress⟩,
    houtcome.sound, fun hsome => houtcome.kept _ (h.supplied.file hsome), h.supplied.nodes⟩

/-- The same if the operation may have had a fault, for then it has done nothing. -/
theorem IsKept.absorbResult (h : play.IsKept entered) {ε α : Type} {good : Library → α → Prop}
    {result : Except Fault (Outcome ε α)}
    (hsupplies : ∀ outcome, result = .ok outcome → outcome.Supplies play.library good) :
    (play.absorbResult result).IsKept entered := by
  cases result with
  | error fault => exact h
  | ok outcome => exact h.absorb (hsupplies outcome rfl)

/-! ## What one operation does

  Between the taking of a node and the end of its step the invariant does not hold as it stands: the
  lowest cursor may have moved, and the status does not know it yet.  `HasTaken` says what holds
  then.  Each kind of node is shown to lead from there back to `IsKept`, the status having been
  brought up to date (`refresh`). -/

/-- Going to a destination enters its block, or halts. -/
theorem transfer_placed (hlibrary : play.library.IsSound)
    (hfile : play.library.contains play.place.file = true)
    (hprogress : play.state.progress = play.place) {destination : Destination}
    (hdestination : destination.IsNulFree) :
    (play.transfer destination).2 = none ∧
      (play.transfer destination).1.IsKept (play.transferVisits destination ++ entered) := by
  obtain ⟨outcome, hresolve, hsupplies⟩ :=
    Library.exists_resolve_of_contains hlibrary hdestination hfile
  rw [transferVisits, hresolve, scenesFound]
  cases hresult : outcome.result with
  | ok scene =>
    rw [transfer_of_scene hresolve hresult]
    exact ⟨rfl, isKept_enter hsupplies.sound (hsupplies.good scene hresult)⟩
  | error error =>
    rw [transfer_of_error hresolve hresult]
    refine ⟨rfl, ?_⟩
    apply isKept_halt
    · exact hsupplies.sound
    · exact hprogress

theorem progress_of_apply {change : StateChange} {state after : State}
    (h : change.apply state = .ok after) : after.progress = state.progress := by
  rcases change with ⟨operation, target, amount⟩
  cases operation <;> cases h <;> rfl

/-- A play that has just taken a node: the cursor on top has passed the node, and the status is not
    yet brought up to date. -/
structure HasTaken (play : Play) (node : Node) (entered : List Scene) : Prop where
  running : play.status.isRunning = true
  top : ∃ top outer, play.cursors = top :: outer ∧ top.passed? = some node
  rooted : play.IsRooted entered
  supplied : play.IsSupplied

theorem HasTaken.cursors {node : Node} (h : play.HasTaken node entered) : play.cursors ≠ [] := by
  obtain ⟨top, outer, hcursors, -⟩ := h.top
  rw [hcursors]
  exact List.cons_ne_nil top outer

/-- Bringing the status of a running play up to date makes it fit the cursors. -/
theorem isKept_refresh (hrun : play.status.isRunning = true) (hcursors : play.cursors ≠ [])
    (hrooted : play.IsRooted entered) (hsupplied : play.IsSupplied) :
    play.refresh.IsKept entered := by
  have hlast := List.getLast?_eq_some_getLast hcursors
  have hindex : play.blockIndex = (play.cursors.getLast hcursors).index := by
    rw [blockIndex, hlast]
  rw [refresh, if_pos hrun]
  refine ⟨⟨⟨halted_iff_of_live hcursors fun _ h => ?_, fun place index h => ?_,
    fun _ _ hwaiting => ?_⟩,
    hrooted.stack, hrooted.progress⟩, hsupplied.library, hsupplied.file, hsupplied.nodes⟩
  · cases h
  · cases h
    exact ⟨rfl, _, hlast, hindex⟩
  · cases hwaiting

/-- A node that has been taken is passed over when nothing but the flags, the counters, what was
    shown and the log change. -/
theorem HasTaken.passes {node : Node} (h : play.HasTaken node entered) {state : State}
    (hprogress : state.progress = play.state.progress) {shown : List Shown} {log : List Record} :
    Play.IsKept (refresh { play with state, shown, log }) entered := by
  apply isKept_refresh
  · exact h.running
  · exact h.cursors
  · exact ⟨h.rooted.stack, hprogress.trans h.rooted.progress⟩
  · exact ⟨h.supplied.library, h.supplied.file, h.supplied.nodes⟩

/-- A play that is kept has a cursor unless it has halted. -/
theorem IsKept.cursors (h : play.IsKept entered) (hlive : ∀ halt, play.status ≠ .halted halt) :
    play.cursors ≠ [] := by
  intro hnil
  obtain ⟨halt, hhalt⟩ := h.placed.halted.2 hnil
  exact hlive halt hhalt

/-- Where the invariant holds, bringing the status up to date keeps it. -/
theorem IsKept.refresh (h : play.IsKept entered) : play.refresh.IsKept entered := by
  by_cases hrun : play.status.isRunning = true
  · have hlive : ∀ halt, play.status ≠ .halted halt := by
      intro halt hhalt
      rw [hhalt] at hrun
      cases hrun
    exact isKept_refresh hrun (h.cursors hlive) h.placed.toIsRooted h.supplied
  · rw [Play.refresh, if_neg hrun]
    exact h

/-- A menu that has just been taken is offered, as far as it is visible, or passed over. -/
theorem offer_placed {choices : List Choice} (h : play.HasTaken (.menu choices) entered)
    (hchoices : ∀ choice ∈ choices, choice.IsRead) :
    (play.offer choices).2 = none ∧ (play.offer choices).1.refresh.IsKept entered := by
  have hoffered : (offered play.state choices).1 =
      .ok (choices.filter (Choice.isVisible play.state)) :=
    offered_ok_iff.2 ⟨fun choice hmem => (hchoices choice hmem).isDecided play.state, rfl⟩
  rw [offer]
  simp only [hoffered]
  split
  next heq => cases heq
  next heq => exact ⟨rfl, h.passes rfl⟩
  next visible hsome heq =>
    cases heq
    obtain ⟨top, outer, hcursors, hpassed⟩ := h.top
    refine ⟨rfl, ⟨⟨halted_iff_of_live h.cursors fun _ h => ?_, fun _ _ hrunning => ?_,
      fun place choices hstatus => ?_⟩, h.rooted.stack, h.rooted.progress⟩,
      h.supplied.library, h.supplied.file, h.supplied.nodes⟩
    · cases h
    · cases hrunning
    · cases hstatus
      exact ⟨rfl, hsome, top, outer, _, hcursors, hpassed, List.filter_sublist⟩

/-- A branch that is walked gets a cursor above the one that has just passed its conditional. -/
theorem branch_placed {condition : Condition} {thenNodes elseNodes : List Node}
    (h : play.HasTaken (.conditional condition thenNodes elseNodes) entered) {branch : List Node}
    (hbranch : branch = thenNodes ∨ branch = elseNodes) (hread : ∀ node ∈ branch, node.IsRead) :
    Play.IsKept (refresh { play with cursors := { nodes := branch } :: play.cursors }) entered := by
  apply isKept_refresh
  · exact h.running
  · exact List.cons_ne_nil _ _
  · obtain ⟨top, outer, hcursors, hpassed⟩ := h.top
    obtain ⟨scene, earlier, hentered, hplace, hnested⟩ := h.rooted.stack h.cursors
    rw [hcursors] at hnested
    refine ⟨fun _ => ⟨scene, earlier, hentered, hplace, ?_⟩, h.rooted.progress⟩
    show Cursor.Nested _ (_ :: play.cursors)
    rw [hcursors]
    exact .branch hnested hpassed hbranch
  · exact ⟨h.supplied.library, fun _ => h.supplied.file h.cursors,
      List.forall_mem_cons.2 ⟨hread, h.supplied.nodes⟩⟩

/-- **The step lemma**: whatever node has been taken, once it is executed and the status is brought
    up to date everything agrees again. -/
theorem execute_placed {node : Node} (h : play.HasTaken node entered) (hnode : node.IsRead) :
    (play.execute node).2 = none ∧
      (play.execute node).1.refresh.IsKept (play.nodeVisits node ++ entered) := by
  cases hnode with
  | text run => exact ⟨rfl, h.passes rfl⟩
  | change hread =>
    obtain ⟨state, hstate⟩ :=
      StateChange.exists_apply (hasMeaning_of_readChange hread) play.state
    have hprogress : state.progress = play.state.progress := progress_of_apply hstate
    rw [execute_change hstate]
    refine ⟨rfl, ?_⟩
    dsimp only
    split
    next =>
      refine IsKept.refresh ?_
      apply isKept_halt
      · exact h.supplied.library
      · exact hprogress.trans h.rooted.progress
    next => exact h.passes hprogress
  | @conditional _ _ condition thenNodes elseNodes hread hthen helse =>
    obtain ⟨truth, htruth⟩ :=
      Condition.exists_evaluate (isKnown_of_readCondition hread) play.state
    have hbranch : (if truth then thenNodes else elseNodes) = thenNodes ∨
        (if truth then thenNodes else elseNodes) = elseNodes := by
      cases truth with
      | true => exact .inl rfl
      | false => exact .inr rfl
    have hnodes : ∀ node ∈ if truth then thenNodes else elseNodes, node.IsRead := by
      cases truth with
      | true => exact hthen
      | false => exact helse
    rw [execute, htruth]
    dsimp only
    -- An empty branch gets no cursor; the conditional is just passed over.
    cases hwalked : (if truth then thenNodes else elseNodes) with
    | nil => exact ⟨rfl, h.passes rfl⟩
    | cons first rest =>
      rw [hwalked] at hbranch hnodes
      exact ⟨rfl, branch_placed h hbranch hnodes⟩
  | menu _ hread => exact offer_placed h hread
  | jump hread =>
    have hdestination := Destination.isNulFree_of_isNamed (isNamed_of_readDestination hread)
    obtain ⟨hnone, hkept⟩ := transfer_placed h.supplied.library (h.supplied.file h.cursors)
      h.rooted.progress hdestination
    exact ⟨hnone, hkept.refresh⟩

/-- Taking a node leaves the cursor that gave it on top, in the same block. -/
theorem hasTaken_of_takeNode (h : play.IsKept entered) (hrun : play.status.isRunning = true)
    {node : Node} {cursors : List Cursor}
    (htake : Cursor.takeNode play.cursors = some (node, cursors)) :
    HasTaken { play with cursors } node entered := by
  have hsome : play.cursors ≠ [] := by
    intro hnil
    rw [hnil] at htake
    cases htake
  obtain ⟨scene, earlier, hentered, hplace, hnested⟩ := h.placed.stack hsome
  obtain ⟨hrest, htop⟩ := Cursor.nested_of_takeNode hnested htake
  -- The status still tells the index that the lowest cursor had before, so it does not fit here.
  exact ⟨hrun, htop, ⟨fun _ => ⟨scene, earlier, hentered, hplace, hrest⟩, h.placed.progress⟩,
    h.supplied.library, fun _ => h.supplied.file hsome,
    (isRead_of_takeNode h.supplied.nodes htake).2.2⟩

/-- **A step has no fault and keeps everything in agreement.** Its three cases are a play that is
    not running, one that has no node left and halts, and one that executes a node. -/
theorem step_placed (h : play.IsKept entered) :
    play.step.2 = none ∧ play.step.1.IsKept (play.stepVisits ++ entered) := by
  by_cases hrun : play.status.isRunning = true
  · rw [stepVisits, if_pos hrun]
    cases htake : Cursor.takeNode play.cursors with
    | none =>
      rw [step_of_exhausted hrun htake]
      exact ⟨rfl, isKept_halt h.supplied.library h.placed.progress _⟩
    | some taken =>
      obtain ⟨node, cursors⟩ := taken
      have hnode := (isRead_of_takeNode h.supplied.nodes htake).1
      obtain ⟨hnone, hkept⟩ := execute_placed (hasTaken_of_takeNode h hrun htake) hnode
      rw [step, if_pos hrun, htake]
      cases hexecute : Play.execute { play with cursors } node with
      | mk next fault =>
        rw [hexecute] at hnone hkept
        cases hnone
        simp only [hexecute]
        exact ⟨trivial, hkept⟩
  · rw [step, if_neg hrun, stepVisits, if_neg hrun]
    exact ⟨rfl, h⟩

/-! ## Starting and choosing

  Starting and choosing go to a block from outside, while the play is at rest.  A choice goes where
  the option says, and the options that are offered come from a menu of the block, so its
  destination can be looked up like that of a jump. -/

/-- A start that fails, for whatever reason, leaves everything as it was but for the library. -/
theorem enterFile_placed (h : play.IsKept entered) (fileId : String) (block : Option String) :
    (play.enterFile fileId block).1.IsKept (play.enterFileVisits fileId block ++ entered) := by
  rw [enterFile, enterFileVisits]
  cases hresolve : play.library.resolve (.file fileId block) fileId with
  | error fault => exact h
  | ok outcome =>
    have hsupplies := Library.supplies_find h.supplied.library hresolve
    rw [scenesFound]
    cases hresult : outcome.result with
    | ok scene =>
      simp only [hresult]
      exact isKept_enter hsupplies.sound (hsupplies.good scene hresult)
    | error error =>
      simp only [hresult]
      exact h.absorb hsupplies

/-- The choices that are offered come from lines, for they are choices of a menu that does. -/
theorem IsKept.choices (h : play.IsKept entered) {place : Place} {choices : List Choice}
    (hstatus : play.status = .awaitingChoice place choices) :
    ∀ choice ∈ choices, choice.IsRead := by
  obtain ⟨-, -, top, outer, menu, hcursors, hpassed, hsublist⟩ :=
    h.placed.waiting place choices hstatus
  have hread : Node.IsRead (.menu menu) := by
    apply h.supplied.nodes top (by rw [hcursors]; exact List.mem_cons_self)
    rw [Cursor.passed?] at hpassed
    split at hpassed
    next => cases hpassed
    next => exact List.mem_of_getElem? hpassed
  cases hread with
  | menu _ hchoices => exact fun choice hmem => hchoices choice (hsublist.subset hmem)

/-- A choice that is refused changes nothing. One that is accepted goes from the current file, which
    is loaded since a waiting play has a cursor. -/
theorem follow_placed (h : play.IsKept entered) (selection : Selection) :
    (play.follow selection).1.IsKept (play.followVisits selection ++ entered) := by
  rw [follow, followVisits]
  cases hstatus : play.status with
  | awaitingChoice place choices =>
    cases hselected : selected choices selection with
    | error error =>
      simp only [hselected]
      exact h
    | ok choice =>
      have hread := isRead_of_selected (h.choices hstatus) hselected
      have hcursors : play.cursors ≠ [] :=
        h.cursors fun halt hhalt => by rw [hstatus] at hhalt; cases hhalt
      simp only [hselected]
      apply (transfer_placed _ _ _ hread.isNulFree).2
      · exact h.supplied.library
      · exact h.supplied.file hcursors
      · exact h.placed.progress
  | _ => exact h

/-! ## Acts

  Runs and rows of acts need no argument of their own: the invariant is kept by steps and by what
  callers do, so it is a history that covers steps. -/

/-- **That everything agrees is kept** by steps and by all that is done to a play, whether it
    succeeds or not, if the blocks that are entered on the way are added to those entered before. -/
theorem coversSteps_kept : History.CoversSteps fun before after _ later =>
    ∀ earlier, before.IsKept earlier → after.IsKept (later ++ earlier) where
  refl _ _ h := h
  trans hfirst hlater earlier h := by
    rw [List.append_assoc]
    exact hlater _ (hfirst earlier h)
  step _ _ h := (step_placed h).2
  stepLimit play limit _ h :=
    @isKept_halt (play.note (.stepLimitReached limit play.place)) _ h.supplied.library
      h.placed.progress _
  enterFile _ fileId block _ h := enterFile_placed h fileId block
  follow _ selection _ h := follow_placed h selection
  beside play act hact _ h := by
    cases act with
    | load fileId text =>
      have hfinds := play.library.finds_load fileId text
      exact h.absorb (Library.supplies_of_finds h.supplied.library hfinds)
    | loadFile fileId =>
      exact h.absorbResult fun outcome hload =>
        Library.supplies_of_finds h.supplied.library (Library.finds_loadFile hload)
    | get fileId =>
      exact h.absorbResult fun outcome hget =>
        Library.supplies_of_finds h.supplied.library (Library.finds_get hget)
    | writeFile location content =>
      exact ⟨⟨⟨h.placed.halted, h.placed.running, h.placed.waiting⟩,
        h.placed.stack, h.placed.progress⟩,
        h.supplied.library.writeFile location content, h.supplied.file, h.supplied.nodes⟩
    | _ => cases hact

/-- **Status, cursors, place and progress of a play agree.** Begin with a library of stories that
    were read and with a state that has made no progress, do anything in any order: the play has
    halted just when it has no cursor; while it runs or waits, its cursors are nested in the block
    that was entered last, and its status tells of that block and of those cursors; and its state
    records the place of the play. -/
theorem performAll_placed {library : Library} (hparsed : library.IsParsed)
    (hfolder : library.HasFolder) {state : State} (hprogress : state.progress = {})
    (acts : List Act) :
    ((fresh library state).performAll acts).IsPlaced ((fresh library state).visits acts) := by
  have hfresh : (fresh library state).IsKept [] := isKept_fresh ⟨hparsed, hfolder⟩ hprogress
  -- A caller who writes to the state leaves the progress that it records as it is.
  have hwrites : ∀ act ∈ acts, act.writesState = true →
      ∀ play : Play, ∀ earlier, play.IsKept earlier → (play.perform act).IsKept earlier := by
    intro act _ hwrite play earlier h
    cases act with
    | setFlag name value => exact h.withState rfl
    | setCounter name value => exact h.withState rfl
    | _ => cases hwrite
  have hkept := coversSteps_kept.performAll (fresh library state) hwrites [] hfresh
  rw [List.append_nil] at hkept
  exact hkept.placed

/-- A gate that can be opened by whoever has the key. -/
def gateText : String :=
  "@block gate\n@if flag:key\n@option Open it -> garden\n@option Knock -> gate\n@endif\n@end\n"

/-- Standing at the gate with the key, and asking for what is not offered. -/
def gateActs : List Act :=
  [.load "house" gateText, .setFlag "key" true, .start "house" none, .enter "cellar" none,
    .choose (.index 2)]

/-- At the gate: the block is entered and its conditional walked, so there are two cursors and the
    lower one has passed the conditional. The start that fails and the choice that is not offered
    leave it at that. -/
theorem performAll_placed_gate :
    ((fresh {} {}).performAll gateActs).IsPlaced ((fresh {} {}).visits gateActs) ∧
      ((fresh {} {}).performAll gateActs).status =
        .awaitingChoice ⟨"house", "gate"⟩ [⟨"Open it", .block "garden", none, []⟩,
          ⟨"Knock", .block "gate", none, []⟩] ∧
      ((fresh {} {}).performAll gateActs).cursors.map (·.index) = [1, 1] ∧
      ((fresh {} {}).visits gateActs).map Scene.place = [⟨"house", "gate"⟩] := by
  have hparsed : Library.IsParsed {} := fun fileId story h => by cases h
  have hfolder : Library.HasFolder {} := fun h => by cases h
  exact ⟨performAll_placed hparsed hfolder rfl gateActs, by decide +kernel⟩

end Play
end Gamebook
