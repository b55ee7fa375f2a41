/-
  The nodes that a play passes.

  A play shows and logs things, and it changes its state, but it keeps no record of the nodes that
  made it do so.  So that one can say what happened at which node, `Play.passages` finds the nodes
  that some acts execute, each with the play that had just taken it, the one executed last first.

  * `perform_of_halting`: an act that executes a node on which the play halts ends with that node.
  * `Play.IsStill`: between one play and another nothing has happened.
  * `perform_of_halted`: until it is started again or written to, a halted play executes no node and
    stays still.

  A passage holds the play as it stood between taking the node and executing it.  What the node did
  can be computed from that (`Passage.after`), and so can whatever one wants to know of the moment:
  whether the flag that ends the game was down, what a jump was looked up in, what was shown before.
-/
import Gamebook.Proofs.Visits

namespace Gamebook

/-! ## The nodes that are passed

  These lists run along with the lists of blocks that are entered (`Play.visits`), with the newest
  in front.  The difference is where they grow: a block is entered by jumps, starts and choices, a
  node is executed by steps only, so starting and choosing count here just for the run that follows
  them. -/

/-- A node that is executed, and the play that has just taken it. -/
structure Passage where
  node : Node
  before : Play

namespace Passage

/-- The play that executing the node leads to. -/
def after (passage : Passage) : Play := (passage.before.execute passage.node).1

/-- What the node shows, the newest first: only text is shown. -/
def events (passage : Passage) : List Shown :=
  match passage.node with
  | .text run => run.events
  | _ => []

end Passage

namespace Play

/-- The node that a step executes. -/
def stepPassages (play : Play) : List Passage :=
  if play.status.isRunning then
    match Cursor.takeNode play.cursors with
    | some (node, cursors) => [{ node, before := { play with cursors } }]
    | none => []
  else []

/-- The nodes that so many steps execute, the one executed last first. -/
def runStepsPassages : Nat → Play → List Passage
  | 0, _ => []
  | count + 1, play =>
    if play.status.isRunning then
      match play.step with
      | (next, none) => runStepsPassages count next ++ play.stepPassages
      | (_, some _) => play.stepPassages
    else []

/-- The nodes that a run executes. -/
def runPassages (play : Play) (limit : Int := defaultStepLimit) : List Passage :=
  runStepsPassages limit.toNat play

/-- The nodes that running on executes, unless something has failed. -/
def andRunPassages : Play × Option Failure → List Passage
  | (play, none) => play.runPassages
  | (_, some _) => []

/-- The nodes that an act executes. Entering a block executes none of its nodes. -/
def performPassages (play : Play) : Act → List Passage
  | .start fileId block => andRunPassages (play.enterFile fileId block)
  | .choose selection => andRunPassages (play.follow selection)
  | .step => play.stepPassages
  | .run limit => play.runPassages limit
  | .enter .. | .follow _ | .load .. | .loadFile _ | .get _ | .writeFile .. | .setFlag ..
  | .setCounter .. => []

/-- The nodes that some acts execute one after the other, the one executed last first. -/
def passages (play : Play) : List Act → List Passage
  | [] => []
  | act :: acts => passages (play.perform act) acts ++ play.performPassages act

variable {play : Play}

/-! ## Steps and the nodes they pass

  A step passes one node or none, and a run passes what its steps pass.  The lemmas of this section
  say so case by case: the play is running or not, a node is left or not, the step has a fault or
  not.  Later files reason about steps by these cases and do not open the definitions again. -/

theorem stepPassages_of_takeNode (hrun : play.status.isRunning = true) {node : Node}
    {cursors : List Cursor} (htake : Cursor.takeNode play.cursors = some (node, cursors)) :
    play.stepPassages = [{ node, before := { play with cursors } }] := by
  rw [stepPassages, if_pos hrun, htake]

/-- A step ends where its node leads, with the status brought up to date unless the node has a
    fault. -/
theorem fst_step_of_takeNode (hrun : play.status.isRunning = true) {node : Node}
    {cursors : List Cursor} (htake : Cursor.takeNode play.cursors = some (node, cursors)) :
    play.step.1 = (Passage.after { node, before := { play with cursors } }).refresh ∨
      play.step.1 = Passage.after { node, before := { play with cursors } } := by
  rw [Passage.after, step, if_pos hrun, htake]
  dsimp only
  cases hexecute : Play.execute { play with cursors } node with
  | mk next fault =>
    cases fault with
    | none => exact .inl rfl
    | some fault => exact .inr rfl

/-- A step executes no node where none is left. -/
theorem stepPassages_of_exhausted (htake : Cursor.takeNode play.cursors = none) :
    play.stepPassages = [] := by
  rw [stepPassages, htake]
  exact ite_self []

theorem stepPassages_of_not_running (hrun : ¬ play.status.isRunning = true) :
    play.stepPassages = [] := by
  rw [stepPassages, if_neg hrun]

/-- Nor does it when it is told to take any number of steps. -/
theorem runStepsPassages_of_not_running (hrun : ¬ play.status.isRunning = true) (count : Nat) :
    runStepsPassages count play = [] := by
  cases count with
  | zero => rfl
  | succ count => rw [runStepsPassages, if_neg hrun]

/-- Only a running play takes steps. -/
theorem runSteps_of_not_running (hrun : ¬ play.status.isRunning = true) (limit : Int)
    (count : Nat) : runSteps limit count play = (play, none) := by
  cases count <;> rw [runSteps, if_neg hrun]

/-- A run passes what its first step passes, and then what the rest of it does. -/
theorem runStepsPassages_of_step {count : Nat} (hrun : play.status.isRunning = true)
    (hnone : play.step.2 = none) :
    runStepsPassages (count + 1) play =
      runStepsPassages count play.step.1 ++ play.stepPassages := by
  rw [runStepsPassages, if_pos hrun]
  cases hstep : play.step with
  | mk next fault =>
    rw [hstep] at hnone
    cases hnone
    rfl

/-- With a fault in its first step a run has passed what this step has passed. -/
theorem runStepsPassages_of_fault {count : Nat} (hrun : play.status.isRunning = true)
    {fault : Fault} (hfault : play.step.2 = some fault) :
    runStepsPassages (count + 1) play = play.stepPassages := by
  rw [runStepsPassages, if_pos hrun]
  cases hstep : play.step with
  | mk next other =>
    rw [hstep] at hfault
    cases hfault
    rfl

/-- A run that comes to a fault goes no further. -/
theorem fst_runSteps_of_fault {limit : Int} {count : Nat} (hrun : play.status.isRunning = true)
    {fault : Fault} (hfault : play.step.2 = some fault) :
    (runSteps limit (count + 1) play).1 = play.step.1 := by
  rw [runSteps, if_pos hrun]
  cases hstep : play.step with
  | mk next other =>
    rw [hstep] at hfault
    cases hfault
    rfl

/-- A node that has a fault leaves the status as it was. -/
theorem status_of_execute_fault {node : Node} {fault : Fault}
    (hfault : (play.execute node).2 = some fault) : (play.execute node).1.status = play.status := by
  cases node with
  | text run => cases hfault
  | change change =>
    rw [execute] at hfault ⊢
    cases happly : change.apply play.state with
    | error fault => rfl
    | ok state => rw [happly] at hfault; cases hfault
  | conditional condition thenNodes elseNodes =>
    rw [execute] at hfault ⊢
    cases htruth : condition.evaluate play.state with
    | error fault => rfl
    | ok truth =>
      rw [htruth] at hfault
      dsimp only at hfault
      split at hfault <;> cases hfault
  -- A menu has its fault before anything of it is offered.
  | menu choices =>
    rw [execute, offer] at hfault ⊢
    generalize offered play.state choices = result at hfault ⊢
    obtain ⟨outcome, records⟩ := result
    cases outcome with
    | error fault => rfl
    | ok visible => cases visible <;> cases hfault
  -- And a jump has its fault before anything is taken over from the look-up.
  | jump destination =>
    rw [execute] at hfault ⊢
    cases hresolve : play.library.resolve destination play.place.file with
    | error fault => rw [transfer_of_fault hresolve]
    | ok outcome =>
      rw [transfer, hresolve] at hfault
      dsimp only at hfault
      split at hfault <;> cases hfault
  | unknown form => rfl

/-- A step that passes a node on which the play halts leaves the play as the node does. -/
theorem step_of_halting {passage : Passage} (hmem : passage ∈ play.stepPassages) {halt : Halt}
    (hhalt : passage.after.status = .halted halt) :
    play.status.isRunning = true ∧ play.step = (passage.after, none) := by
  by_cases hrun : play.status.isRunning = true
  · refine ⟨hrun, ?_⟩
    cases htake : Cursor.takeNode play.cursors with
    | none =>
      rw [stepPassages_of_exhausted htake] at hmem
      cases hmem
    | some taken =>
      obtain ⟨node, cursors⟩ := taken
      rw [stepPassages_of_takeNode hrun htake] at hmem
      obtain rfl := List.mem_singleton.1 hmem
      rw [Passage.after] at hhalt ⊢
      rw [step, if_pos hrun, htake]
      dsimp only at hhalt ⊢
      have hstatus := @status_of_execute_fault { play with cursors } node
      cases hexecute : Play.execute { play with cursors } node with
      | mk next fault =>
        rw [hexecute] at hhalt hstatus
        dsimp only at hhalt ⊢
        cases fault with
        | none =>
          have hsame : next.refresh = next := by
            rw [Play.refresh, hhalt]
            exact if_neg Bool.false_ne_true
          show (next.refresh, none) = (next, none)
          rw [hsame]
        | some fault =>
          -- With a fault the status would still be running.
          have hsame : next.status = play.status := hstatus rfl
          rw [← hsame, hhalt] at hrun
          cases hrun
  · rw [stepPassages_of_not_running hrun] at hmem
    cases hmem

/-- A run that passes a node on which the play halts ends there. By induction on the steps that are
    left: the node is passed by the first of them, which then ends the run, or by a later one. -/
theorem runSteps_of_halting {passage : Passage} {halt : Halt}
    (hhalt : passage.after.status = .halted halt) (limit : Int) (count : Nat)
    (hmem : passage ∈ runStepsPassages count play) :
    runSteps limit count play = (passage.after, none) := by
  induction count generalizing play with
  | zero => cases hmem
  | succ count ih =>
    by_cases hrun : play.status.isRunning = true
    · -- The node is passed by the first step, or by the rest of the run if there is one.
      have hfirst : passage ∈ play.stepPassages →
          runSteps limit (count + 1) play = (passage.after, none) := by
        intro hmem
        obtain ⟨-, hstep⟩ := step_of_halting hmem hhalt
        have hstill : ¬ passage.after.status.isRunning = true := by
          rw [hhalt]
          exact Bool.false_ne_true
        rw [runSteps_of_step hrun (by rw [hstep]), hstep]
        exact runSteps_of_not_running hstill limit count
      cases hfault : play.step.2 with
      | none =>
        rw [runStepsPassages_of_step hrun hfault] at hmem
        rcases List.mem_append.1 hmem with hmem | hmem
        · rw [runSteps_of_step hrun hfault]
          exact ih hmem
        · exact hfirst hmem
      | some fault =>
        rw [runStepsPassages_of_fault hrun hfault] at hmem
        exact hfirst hmem
    · rw [runStepsPassages_of_not_running hrun] at hmem
      cases hmem

/-- The same for running on after a start or a choice: with a failure nothing is passed, so there
    was none. -/
theorem andRun_of_halting {passage : Passage} {halt : Halt}
    (hhalt : passage.after.status = .halted halt) {result : Play × Option Failure}
    (hmem : passage ∈ andRunPassages result) : andRun result = (passage.after, none) := by
  obtain ⟨play, failure⟩ := result
  cases failure with
  | none =>
    have hrun := runSteps_of_halting hhalt defaultStepLimit defaultStepLimit.toNat hmem
    rw [andRun, run, hrun]
    rfl
  | some failure => cases hmem

/-- **An act that passes a node on which the play halts ends with that node**, and does not fail. -/
theorem perform_of_halting {passage : Passage} {halt : Halt}
    (hhalt : passage.after.status = .halted halt) {act : Act}
    (hmem : passage ∈ play.performPassages act) :
    play.perform act = passage.after ∧ play.failure act = none := by
  cases act with
  | start fileId block =>
    have hran : play.start fileId block = (passage.after, none) := andRun_of_halting hhalt hmem
    rw [perform, failure, hran]
    exact ⟨rfl, rfl⟩
  | choose selection =>
    have hran : play.choose selection = (passage.after, none) := andRun_of_halting hhalt hmem
    rw [perform, failure, hran]
    exact ⟨rfl, rfl⟩
  | step =>
    rw [perform, failure, (step_of_halting hmem hhalt).2]
    exact ⟨rfl, rfl⟩
  | run limit =>
    have hran : play.run limit = (passage.after, none) :=
      runSteps_of_halting hhalt limit limit.toNat hmem
    rw [perform, failure, hran]
    exact ⟨rfl, rfl⟩
  | _ => cases hmem

/-! ## Plays that stay still

  To stay still is more than to show nothing.  It is said of everything that a reader or a caller
  can notice of the play: state, status, place, cursors and what was shown.  What a caller does to
  the library in the meantime does not count. -/

/-- Nothing has happened from the one play to the other: where it stands and all that it has shown
    and remembers is as it was, and no block has been entered in between. The library and the rest
    of the log are free. -/
structure IsStill (before after : Play) : Prop where
  state : after.state = before.state
  status : after.status = before.status
  place : after.place = before.place
  cursors : after.cursors = before.cursors
  shown : after.shown = before.shown
  visits : before.Tells after []

theorem IsStill.refl (play : Play) : play.IsStill play := ⟨rfl, rfl, rfl, rfl, rfl, rfl⟩

/-- Two stretches without anything happening make one. -/
theorem IsStill.trans {first second third : Play} (h : first.IsStill second)
    (hlater : second.IsStill third) : first.IsStill third where
  state := hlater.state.trans h.state
  status := hlater.status.trans h.status
  place := hlater.place.trans h.place
  cursors := hlater.cursors.trans h.cursors
  shown := hlater.shown.trans h.shown
  visits := h.visits.trans hlater.visits

theorem isStill_absorb {ε α : Type} {outcome : Outcome ε α}
    (h : placesEntered outcome.log = []) : play.IsStill (play.absorb outcome) :=
  ⟨rfl, rfl, rfl, rfl, rfl, .absorb h⟩

/-- That a look-up may have a fault makes no difference: then nothing is taken over. -/
theorem isStill_absorbResult {ε α : Type} {result : Except Fault (Outcome ε α)}
    (h : ∀ outcome, result = .ok outcome → placesEntered outcome.log = []) :
    play.IsStill (play.absorbResult result) := by
  cases result with
  | error fault => exact .refl play
  | ok outcome => exact isStill_absorb (h outcome rfl)

end Play

/-- The act leaves a play that has begun to itself: it neither begins it anew nor writes to its
    state. -/
def Act.goesOn : Act → Bool
  | start .. | enter .. | setFlag .. | setCounter .. => false
  | _ => true

namespace Play

variable {play : Play}

/-- **A halted play stays still**, and executes no node, whatever is done but for beginning it anew
    and writing to its state. -/
theorem perform_of_halted {halt : Halt} (hhalt : play.status = .halted halt) {act : Act}
    (hact : act.goesOn = true) :
    play.performPassages act = [] ∧ play.IsStill (play.perform act) := by
  have hrun : ¬ play.status.isRunning = true := by
    rw [hhalt]
    exact Bool.false_ne_true
  have hfollow : ∀ selection, play.follow selection = (play, some (.refused .noChoicePending)) := by
    intro selection
    rw [follow, hhalt]
  -- Choices are refused, steps and runs find the play not running, and the rest is done to the
  -- library or to the files.
  cases act with
  | choose selection =>
    rw [performPassages, perform, choose, hfollow]
    exact ⟨rfl, .refl play⟩
  | follow selection =>
    rw [perform, hfollow]
    exact ⟨rfl, .refl play⟩
  | step =>
    rw [perform, step, if_neg hrun]
    exact ⟨stepPassages_of_not_running hrun, .refl play⟩
  | run limit =>
    rw [perform, run, runSteps_of_not_running hrun]
    exact ⟨runStepsPassages_of_not_running hrun _, .refl play⟩
  | load fileId text =>
    exact ⟨rfl, isStill_absorb (play.library.finds_load fileId text).placesEntered⟩
  | loadFile fileId =>
    exact ⟨rfl, isStill_absorbResult fun _ hload => (Library.finds_loadFile hload).placesEntered⟩
  | get fileId =>
    exact ⟨rfl, isStill_absorbResult fun _ hget => (Library.finds_get hget).placesEntered⟩
  | writeFile location content => exact ⟨rfl, rfl, rfl, rfl, rfl, rfl, rfl⟩
  | _ => cases hact

end Play
end Gamebook
