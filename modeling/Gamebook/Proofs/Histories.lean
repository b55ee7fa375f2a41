/-
  What lies between one play and another.

  Much of what is to be said of a play is said of the time between two moments: what the log has got
  to tell of, what has been shown, how the state has been written to, and which properties have been
  kept.  Each of these is a `History`: it relates the play before, the play after, the nodes that
  were passed and the blocks that were entered.  To follow one of them through a game means to go
  through jumps, menus, nodes, steps, runs, starts, choices and acts, and the way is the same for
  all of them.  It is gone here once, for any history, in three stages:

  1. `CoversMoves`: the history has room for what a play does beside passing nodes.  It takes over
     what a look-up has done, it enters a block, or it only logs something, waits or halts.  Jumps,
     menus, starts and choices are made of such moves (`transfer`, `offer`, `enterFile`, `follow`).
  2. `CoversNodes`: it has room for passing a node, too.  Then it covers whatever a node makes a
     play do (`execute`), and a step.
  3. `CoversSteps`: from steps it gets to runs, to single acts and to many (`runSteps`, `perform`,
     `performAll`).  The second stage leads to the third (`CoversNodes.coversSteps`); a history that
     has to look at a step as a whole can begin with the third.

  What is left to each history is to say how a single move fits into it.  Two are told at the end:
  the log tells of the blocks that are entered (`tells_performAll`), and what is shown comes from
  the nodes that are passed (`shown_performAll`).
-/
import Gamebook.Proofs.Passages

namespace Gamebook

/-! ## What passing a node comes to

  A node does three things by itself: it shows its text, it writes to the state, and it may put a
  branch on the stack.  What it does beyond that, it does like the play does it elsewhere: a jump
  goes to its destination as an accepted choice does, and a menu that is offered touches the status
  and the log only.  So the effect of a node is told by three functions of the node
  (`Passage.events`, `Node.write`, `Node.Opens`) and by moves that are not special to nodes. -/

/-- The state after a node has been executed, apart from the place. Only changes write, and one that
    has a fault writes nothing. -/
def Node.write (node : Node) (state : State) : State :=
  match node with
  | .change directive =>
    match directive.apply state with
    | .ok after => after
    | .error _ => state
  | _ => state

/-- The cursors that passing a node can put on top of the others: a conditional gets one for the
    branch that is walked, and nothing else gets any. -/
inductive Node.Opens : Node → List Cursor → Prop
  | nothing (node : Node) : Opens node []
  | thenNodes (condition : Condition) (thenNodes elseNodes : List Node) :
      Opens (.conditional condition thenNodes elseNodes) [{ nodes := thenNodes }]
  | elseNodes (condition : Condition) (thenNodes elseNodes : List Node) :
      Opens (.conditional condition thenNodes elseNodes) [{ nodes := elseNodes }]

/-- From the one play to the other something has been logged, and the play has perhaps come to wait
    or to halt, but not because the game is over. No block has been entered. -/
structure Play.IsAside (before after : Play) : Prop where
  library : after.library = before.library
  state : after.state = before.state
  cursors : after.cursors = before.cursors ∨ after.cursors = []
  shown : after.shown = before.shown
  log : placesEntered after.log = placesEntered before.log
  status : after.status = .halted .gameOver → before.status = .halted .gameOver

namespace Play

/-- Offering a menu, or passing it over, shows nothing and leaves the state and the cursors. -/
theorem isAside_offer (play : Play) (choices : List Choice) :
    play.IsAside (play.offer choices).1 := by
  have hrecords : placesEntered ((offered play.state choices).2 ++ play.log) =
      placesEntered play.log := by
    rw [placesEntered_append, placesEntered_offered, List.nil_append]
  rw [offer]
  dsimp only
  split
  next => exact ⟨rfl, rfl, .inl rfl, rfl, hrecords, id⟩
  next => exact ⟨rfl, rfl, .inl rfl, rfl, hrecords, id⟩
  next => exact ⟨rfl, rfl, .inl rfl, rfl, hrecords, fun hstatus => by cases hstatus⟩

theorem isAside_refresh (play : Play) : play.IsAside play.refresh := by
  rw [refresh]
  split
  next => exact ⟨rfl, rfl, .inl rfl, rfl, rfl, fun hstatus => by cases hstatus⟩
  next => exact ⟨rfl, rfl, .inl rfl, rfl, rfl, id⟩

/-- Halting for any other reason than game over is an aside. -/
theorem isAside_halt (play : Play) {halt : Halt} (hother : halt ≠ .gameOver) :
    play.IsAside (play.halt halt) :=
  ⟨rfl, rfl, .inr rfl, rfl, rfl, fun hstatus => absurd (Status.halted.inj hstatus) hother⟩

theorem isAside_note (play : Play) (record : Record) (hrecord : record.entered? = none) :
    play.IsAside (play.note record) :=
  ⟨rfl, rfl, .inl rfl, rfl, List.filterMap_cons_none hrecord, id⟩

/-- What showing a run of text comes to. -/
theorem display_eq (play : Play) (run : TextRun) :
    play.display run = { play with shown := run.events ++ play.shown } := by
  rw [display, TextRun.events]
  split <;> rfl

end Play

/-! ## Histories

  A history is a relation with room for composition: it holds of a play and itself with nothing in
  between, and two stretches of it make one, the nodes and blocks of the later stretch being put in
  front.  The conditions of the three stages below are all of one kind.  Each says of one thing that
  a play can do that it is a stretch of the history, and names the nodes and the blocks that count
  for it.  Where a condition hands over facts, such as that a look-up has found the scene, they are
  the facts which the operation has at hand at that moment. -/

/-- What is said of a play and a later one, when between the two these nodes have been passed and
    these blocks entered, the last of each first. -/
abbrev History : Type := Play → Play → List Passage → List Scene → Prop

namespace History

open Play

/-- The later play has the property if the earlier one has it. -/
def keeps (invariant : Play → Prop) : History :=
  fun before after _ _ => invariant before → invariant after

/-! ### Moves -/

/-- The history has room for everything that a play does beside passing nodes. All that is known of
    a move is handed over with it: of an aside, that it leaves library, state and text alone; of
    what the library has done, that its stories were read if those before were; of a scene, what it
    was found by. -/
structure CoversMoves (history : History) : Prop where
  refl (play : Play) : history play play [] []
  trans {first second third : Play} {passed laterPassed : List Passage}
    {entered laterEntered : List Scene} (h : history first second passed entered)
    (hlater : history second third laterPassed laterEntered) :
    history first third (laterPassed ++ passed) (laterEntered ++ entered)
  aside {before after : Play} (h : before.IsAside after) : history before after [] []
  /-- A story may have been loaded, or a file written. -/
  supply {play : Play} {library : Library} {records : List Record}
    (hparsed : play.library.IsParsed → library.IsParsed) (hrecords : placesEntered records = []) :
    history play { play with library, log := records ++ play.log } [] []
  arrive {play : Play} {destination : Destination} {currentFile : String}
    {outcome : Outcome ResolutionError Scene} {scene : Scene}
    (hresolve : play.library.resolve destination currentFile = .ok outcome)
    (hscene : outcome.result = .ok scene) :
    history play ((play.absorb outcome).enter scene) [] [scene]

namespace CoversMoves

variable {history : History} (h : history.CoversMoves)

include h

/-- Whether a look-up finds a block or not, what it has done to the library can be taken over. -/
theorem absorb {play : Play} {destination : Destination} {currentFile : String}
    {outcome : Outcome ResolutionError Scene}
    (hresolve : play.library.resolve destination currentFile = .ok outcome) :
    history play (play.absorb outcome) [] [] :=
  h.supply (fun hparsed => (hparsed.resolve hresolve).1) (Library.placesEntered_resolve hresolve)

/-- Going somewhere enters a block, halts for want of one, or has a fault and does nothing. -/
theorem transfer (play : Play) (destination : Destination) :
    history play (play.transfer destination).1 [] (play.transferVisits destination) := by
  rw [transferVisits]
  cases hresolve : play.library.resolve destination play.place.file with
  | error fault =>
    rw [transfer_of_fault hresolve]
    exact h.refl play
  | ok outcome =>
    rw [scenesFound]
    cases hresult : outcome.result with
    | ok scene =>
      rw [transfer_of_scene hresolve hresult]
      exact h.arrive hresolve hresult
    -- The failure is logged first, and then the play halts.
    | error error =>
      rw [transfer_of_error hresolve hresult]
      have hnoted := h.trans (h.absorb hresolve)
        (h.aside (isAside_note _ (.unresolved destination play.place error) rfl))
      exact h.trans hnoted (h.aside (isAside_halt _ fun hhalt => by cases hhalt))

/-- Starting enters a block, or fails and takes over no more than what the look-up has done to the
    library. It halts nothing. -/
theorem enterFile (play : Play) (fileId : String) (block : Option String) :
    history play (play.enterFile fileId block).1 [] (play.enterFileVisits fileId block) := by
  rw [Play.enterFile, enterFileVisits]
  cases hresolve : play.library.resolve (.file fileId block) fileId with
  | error fault => exact h.refl play
  | ok outcome =>
    rw [scenesFound]
    dsimp only
    cases hresult : outcome.result with
    | ok scene => exact h.arrive hresolve hresult
    | error error => exact h.absorb hresolve

/-- A choice that is accepted is logged, and then gone for. -/
theorem follow (play : Play) (selection : Selection) :
    history play (play.follow selection).1 [] (play.followVisits selection) := by
  rw [Play.follow, followVisits]
  cases hstatus : play.status with
  | awaitingChoice place choices =>
    cases hselected : selected choices selection with
    | error error =>
      simp only [hselected]
      exact h.refl play
    | ok choice =>
      -- From here on the choice counts as made, so the play is running again.
      let going : Play := { (play.note (.chose choice.label choice.destination)) with
        status := .running play.place play.blockIndex }
      have hgoing : history play going [] [] :=
        h.aside ⟨rfl, rfl, .inl rfl, rfl, rfl, fun hover => by cases hover⟩
      have hgone := h.trans hgoing (h.transfer going choice.destination)
      rw [List.append_nil, List.append_nil] at hgone
      simp only [hselected]
      exact hgone
  | _ => exact h.refl play

/-- Acts that are done to the library or to the files move nothing in the play. -/
theorem beside (play : Play) {act : Act} (hact : act.isOfPlay = false) :
    history play (play.perform act) [] [] := by
  -- What is loaded or looked up is a text that was read, or nothing.
  have hfinds : ∀ {ε : Type} {fileId : String} {outcome : Outcome ε Story},
      outcome.Finds play.library fileId → history play (play.absorb outcome) [] [] :=
    fun hfinds => h.supply (fun hparsed => (hparsed.finds hfinds).1) hfinds.placesEntered
  cases act with
  | load fileId text => exact hfinds (play.library.finds_load fileId text)
  | loadFile fileId =>
    rw [perform]
    cases hload : play.library.loadFile fileId with
    | error fault => exact h.refl play
    | ok outcome => exact hfinds (Library.finds_loadFile hload)
  | get fileId =>
    rw [perform]
    cases hget : play.library.get fileId with
    | error fault => exact h.refl play
    | ok outcome => exact hfinds (Library.finds_get hget)
  -- Writing a file logs nothing.
  | writeFile location content =>
    exact @supply _ h play (play.library.writeFile location content) [] (fun hparsed => hparsed) rfl
  | _ => cases hact

end CoversMoves

/-! ### Nodes -/

/-- The history has room for passing a node, too: the node is taken from the cursors, shows what it
    shows, writes what it writes and opens a branch if it opens one. It also has room for halting
    with game over, which only a node can bring about. -/
structure CoversNodes (history : History) : Prop extends history.CoversMoves where
  pass {play : Play} {node : Node} {cursors branch : List Cursor}
    (htake : Cursor.takeNode play.cursors = some (node, cursors)) (hopens : node.Opens branch) :
    history play
      { play with
        cursors := branch ++ cursors
        state := node.write play.state
        shown := Passage.events ⟨node, play⟩ ++ play.shown }
      [⟨node, { play with cursors }⟩] []
  gameOver (play : Play) : history play (play.halt .gameOver) [] []

namespace CoversNodes

variable {history : History} (h : history.CoversNodes)

include h

/-- **What a node makes a play do**: it is passed, and then a jump or a menu does what it does.
    There is one case for each kind of node, and one more for each way in which it can have a
    fault. -/
theorem execute {play : Play} {node : Node} {cursors : List Cursor}
    (htake : Cursor.takeNode play.cursors = some (node, cursors)) :
    history play (Play.execute { play with cursors } node).1 [⟨node, { play with cursors }⟩]
      (play.nodeVisits node) := by
  have hpassed := h.pass htake (.nothing node)
  cases node with
  | text run =>
    rw [Play.execute, display_eq]
    exact hpassed
  | change change =>
    rw [Play.execute]
    cases happly : change.apply play.state with
    | error fault =>
      rw [Node.write, happly] at hpassed
      exact hpassed
    | ok state =>
      rw [Node.write, happly] at hpassed
      dsimp only
      split
      -- The change has put up the flag that ends the game.
      next => exact h.trans hpassed (h.gameOver _)
      next => exact hpassed
  | conditional condition thenNodes elseNodes =>
    rw [Play.execute]
    cases condition.evaluate play.state with
    | error fault => exact hpassed
    | ok truth =>
      -- Whichever branch is walked, it is one of the two; an empty one gets no cursor.
      have hopens : Node.Opens (.conditional condition thenNodes elseNodes)
          [{ nodes := if truth then thenNodes else elseNodes }] := by
        cases truth with
        | true => exact .thenNodes condition thenNodes elseNodes
        | false => exact .elseNodes condition thenNodes elseNodes
      dsimp only
      generalize (if truth then thenNodes else elseNodes) = walked at hopens
      cases walked with
      | nil => exact hpassed
      | cons first rest => exact h.pass htake hopens
  | menu choices => exact h.trans hpassed (h.aside (isAside_offer { play with cursors } choices))
  | jump destination =>
    have hgone := h.trans hpassed (h.transfer { play with cursors } destination)
    rw [List.append_nil] at hgone
    exact hgone
  | unknown form => exact hpassed

/-- A step executes the node that it takes and brings the status up to date. Where no node is left
    it halts the play, and a play that is not running it leaves alone. -/
theorem step (play : Play) : history play play.step.1 play.stepPassages play.stepVisits := by
  rw [Play.step, stepPassages, stepVisits]
  split
  next =>
    cases htake : Cursor.takeNode play.cursors with
    | none => exact h.aside (isAside_halt play fun hhalt => by cases hhalt)
    | some taken =>
      obtain ⟨node, cursors⟩ := taken
      have hnode := h.execute htake
      dsimp only
      cases hexecute : Play.execute { play with cursors } node with
      | mk next fault =>
        rw [hexecute] at hnode
        cases fault with
        | none => exact h.trans hnode (h.aside (isAside_refresh next))
        | some fault => exact hnode
  next => exact h.refl play

end CoversNodes

/-! ### Steps, runs and acts -/

/-- The history has room for steps, for the halt when they are used up, for beginning and choosing,
    and for what is done beside the play. Here a step is one piece, so this can be had of a relation
    that does not hold in the middle of one, while a node has been taken and the status not been
    brought up to date. -/
structure CoversSteps (history : History) : Prop where
  refl (play : Play) : history play play [] []
  trans {first second third : Play} {passed laterPassed : List Passage}
    {entered laterEntered : List Scene} (h : history first second passed entered)
    (hlater : history second third laterPassed laterEntered) :
    history first third (laterPassed ++ passed) (laterEntered ++ entered)
  step (play : Play) : history play play.step.1 play.stepPassages play.stepVisits
  stepLimit (play : Play) (limit : Int) :
    history play ((play.note (.stepLimitReached limit play.place)).halt (.stepLimit play.place))
      [] []
  enterFile (play : Play) (fileId : String) (block : Option String) :
    history play (play.enterFile fileId block).1 [] (play.enterFileVisits fileId block)
  follow (play : Play) (selection : Selection) :
    history play (play.follow selection).1 [] (play.followVisits selection)
  beside (play : Play) {act : Act} (hact : act.isOfPlay = false) :
    history play (play.perform act) [] []

/-- **A history that covers nodes covers steps**, and with them all that follows from steps. -/
theorem CoversNodes.coversSteps {history : History} (h : history.CoversNodes) :
    history.CoversSteps where
  refl := h.refl
  trans := h.trans
  step := h.step
  stepLimit play limit :=
    h.trans (h.aside (isAside_note play (.stepLimitReached limit play.place) rfl))
      (h.aside (isAside_halt _ fun hhalt => by cases hhalt))
  enterFile := h.enterFile
  follow := h.follow
  beside := h.beside

namespace CoversSteps

variable {history : History} (h : history.CoversSteps)

include h

/-- **The run lemma**, by induction on the number of steps that are left. -/
theorem runSteps (limit : Int) (count : Nat) (play : Play) :
    history play (Play.runSteps limit count play).1 (runStepsPassages count play)
      (runStepsVisits count play) := by
  induction count generalizing play with
  | zero =>
    rw [Play.runSteps]
    split
    next => exact h.stepLimit play limit
    next => exact h.refl play
  | succ count ih =>
    rw [Play.runSteps, runStepsPassages, runStepsVisits]
    split
    next =>
      have hstep := h.step play
      cases hfirst : play.step with
      | mk next fault =>
        rw [hfirst] at hstep
        -- A fault ends the run with the step that has it.
        cases fault with
        | none => exact h.trans hstep (ih next)
        | some fault => exact hstep
    next => exact h.refl play

/-- Running on after a start or a choice, unless that has failed. -/
theorem andRun (result : Play × Option Failure) :
    history result.1 (Play.andRun result).1 (andRunPassages result) (andRunVisits result) := by
  obtain ⟨play, failure⟩ := result
  cases failure with
  | none => exact h.runSteps defaultStepLimit defaultStepLimit.toNat play
  | some failure => exact h.refl play

/-- Every act but those by which a caller writes to the state. -/
theorem perform (play : Play) {act : Act} (hact : act.writesState = false) :
    history play (play.perform act) (play.performPassages act) (play.performVisits act) := by
  cases act with
  | start fileId block =>
    have hran := h.trans (h.enterFile play fileId block) (h.andRun _)
    rw [List.append_nil] at hran
    exact hran
  | enter fileId block => exact h.enterFile play fileId block
  | choose selection =>
    have hran := h.trans (h.follow play selection) (h.andRun _)
    rw [List.append_nil] at hran
    exact hran
  | follow selection => exact h.follow play selection
  | step => exact h.step play
  | run limit => exact h.runSteps limit limit.toNat play
  | load fileId text => exact h.beside play rfl
  | loadFile fileId => exact h.beside play rfl
  | get fileId => exact h.beside play rfl
  | writeFile location content => exact h.beside play rfl
  | setFlag name value => cases hact
  | setCounter name value => cases hact

/-- **Acts in any number.** Where a caller writes to the state among them, the history must have
    room for that, too. -/
theorem performAll (play : Play) {acts : List Act}
    (hwrites : ∀ act ∈ acts, act.writesState = true →
      ∀ play : Play, history play (play.perform act) [] []) :
    history play (play.performAll acts) (play.passages acts) (play.visits acts) := by
  induction acts generalizing play with
  | nil => exact h.refl play
  | cons act acts ih =>
    obtain ⟨hfirst, hrest⟩ := List.forall_mem_cons.1 hwrites
    have hact : history play (play.perform act) (play.performPassages act)
        (play.performVisits act) := by
      cases hwrite : act.writesState with
      | false => exact h.perform play hwrite
      | true =>
        -- Such an act passes nothing and enters nothing.
        cases act with
        | setFlag name value => exact hfirst hwrite play
        | setCounter name value => exact hfirst hwrite play
        | _ => cases hwrite
    exact h.trans hact (ih (play.perform act) hrest)

end CoversSteps
end History

/-! ## What the log tells of, and what is shown

  The first two histories say that `visits` and `passages` are what their names say.  They are
  defined by repeating the way of the play, so this has to be proved; what it is proved from are the
  log and the text, which the play keeps itself. -/

namespace Play

/-- What the log tells of is a history: each move adds to it the blocks that it enters. -/
theorem coversNodes_tells : History.CoversNodes fun before after _ entered =>
    before.Tells after entered where
  refl play := rfl
  trans h hlater := h.trans hlater
  aside h := h.log
  supply _ hrecords := by
    rw [Tells, placesEntered_append, hrecords]
    rfl
  arrive {play _ _ outcome scene} hresolve _ := by
    have habsorb : play.Tells (play.absorb outcome) [] :=
      .absorb (Library.placesEntered_resolve hresolve)
    exact congrArg (scene.place :: ·) habsorb
  pass _ _ := rfl
  gameOver play := rfl

/-- **The log tells of every block that is entered, and of no other**, in the same order. -/
theorem tells_performAll (play : Play) (acts : List Act) :
    play.Tells (play.performAll acts) (play.visits acts) := by
  refine coversNodes_tells.coversSteps.performAll play fun act _ hwrite play => ?_
  cases act with
  | setFlag name value => rfl
  | setCounter name value => rfl
  | _ => cases hwrite

/-- What has been shown is a history, too: only passing a node adds to it. -/
theorem coversNodes_shown : History.CoversNodes fun before after passages _ =>
    after.shown = passages.flatMap Passage.events ++ before.shown where
  refl play := rfl
  trans h hlater := by rw [hlater, h, List.flatMap_append, List.append_assoc]
  aside h := h.shown
  supply _ _ := rfl
  arrive _ _ := rfl
  pass _ _ := by
    rw [List.flatMap_singleton]
    rfl
  gameOver play := rfl

/-- **All that is shown comes from the text that is passed**, in the order in which it is passed. -/
theorem shown_performAll (play : Play) (acts : List Act) :
    (play.performAll acts).shown =
      (play.passages acts).flatMap Passage.events ++ play.shown := by
  refine coversNodes_shown.coversSteps.performAll play fun act _ hwrite play => ?_
  cases act with
  | setFlag name value => rfl
  | setCounter name value => rfl
  | _ => cases hwrite

end Play
end Gamebook
