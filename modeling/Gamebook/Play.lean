/-
  Playing a story.

  A play walks the nodes of a block one by one. It keeps a stack of cursors, the innermost one
  first: the branch that a conditional takes is walked by a cursor of its own, as if its nodes
  stood in the place of the conditional, and entering a block replaces the whole stack. A cursor
  that has passed all its nodes stays on the stack until the next node is wanted.

  What was shown and what was logged are kept with the newest first. An operation that fails
  gives back, beside its failure, the play as it then stands.
-/
import Gamebook.Play.Status

namespace Gamebook

/-! ## Cursors -/

/-- Some nodes, and how many of them have been passed. -/
structure Cursor where
  nodes : List Node
  index : Nat := 0

namespace Cursor

/-- The node to be passed next. -/
def next? (cursor : Cursor) : Option Node := cursor.nodes[cursor.index]?

/-- The cursor one node further on. -/
def advance (cursor : Cursor) : Cursor := { cursor with index := cursor.index + 1 }

/-- The nodes that have not been passed. -/
def ahead (cursor : Cursor) : List Node := cursor.nodes.drop cursor.index

/-- Takes the next node from a stack of cursors; the cursors that have none are dropped. -/
def takeNode : List Cursor → Option (Node × List Cursor)
  | [] => none
  | cursor :: outer =>
    match cursor.next? with
    | some node => some (node, cursor.advance :: outer)
    | none => takeNode outer

end Cursor

/-! ## The play -/

/-- Something that was shown to the reader. -/
inductive Shown where
  | text (content : String) (color : Option String)
  | lineEnd
deriving DecidableEq

/-- A story in play. -/
structure Play where
  library : Library
  state : State := {}
  status : Status := .halted .notStarted
  cursors : List Cursor := []
  /-- The block entered last. -/
  place : Place := {}
  shown : List Shown := []
  log : List Record := []
deriving Inhabited

/-- The most nodes that are walked in one go. -/
def defaultStepLimit : Int := 100000

/-- The state after a change. Without an amount, counters go up and down by one and are set to
    zero. -/
def StateChange.apply (change : StateChange) (state : State) : Except Fault State :=
  match change.operation with
  | .setFlag => .ok (state.setFlag change.target true)
  | .clearFlag => .ok (state.setFlag change.target false)
  | .increment => .ok (state.adjustCounter change.target (change.amount.getD 1))
  | .decrement => .ok (state.adjustCounter change.target (-(change.amount.getD 1)))
  | .setCounter => .ok (state.setCounter change.target (change.amount.getD 0))
  | .other name => .error (.unknownOperation name)

namespace Play

/-! ## Small steps -/

/-- Logs an event. -/
def note (play : Play) (record : Record) : Play := { play with log := record :: play.log }

/-- Shows a run of text. -/
def display (play : Play) (run : TextRun) : Play :=
  let shown := .text run.content run.color :: play.shown
  { play with shown := if run.endsLine then .lineEnd :: shown else shown }

/-- Halts the play. -/
def halt (play : Play) (halt : Halt) : Play :=
  { play with cursors := [], status := .halted halt }.note (.halted halt.reason halt.details)

/-- Enters a block. -/
def enter (play : Play) (scene : Scene) : Play :=
  { play with
    place := scene.place
    cursors := [{ nodes := scene.block.nodes }]
    state := play.state.setProgress scene.place
    status := .running scene.place 0 }.note (.entered scene.place)

/-- How many nodes of the block itself have been passed. -/
def blockIndex (play : Play) : Nat :=
  match play.cursors.getLast? with
  | some cursor => cursor.index
  | none => 0

/-- Takes over what looking something up has done to the library and to the log. -/
def absorb {ε α : Type} (play : Play) (outcome : Outcome ε α) : Play :=
  { play with library := outcome.library, log := outcome.log ++ play.log }

/-- Goes to a destination, and halts where there is none. -/
def transfer (play : Play) (destination : Destination) : Play × Option Fault :=
  match play.library.resolve destination play.place.file with
  | .error fault => (play, some fault)
  | .ok outcome =>
    let play := play.absorb outcome
    match outcome.result with
    | .ok scene => (play.enter scene, none)
    | .error error =>
      ((play.note (.unresolved destination play.place error)).halt (.unresolved destination error),
        none)

/-! ## Menus -/

/-- The choices whose guard is absent or true, and the records of those left out. -/
def offered (state : State) : List Choice → Except Fault (List Choice) × List Record
  | [] => (.ok [], [])
  | choice :: rest =>
    let (others, records) := offered state rest
    match choice.guard with
    | none => (others.map (choice :: ·), records)
    | some guard =>
      match guard.evaluate state with
      | .error fault => (.error fault, [])
      | .ok true => (others.map (choice :: ·), records)
      | .ok false =>
        match guard.describe with
        | .error fault => (.error fault, [])
        | .ok text => (others, records ++ [.hidden choice.label text])

/-- Offers a menu. One of which nothing is left is passed over. -/
def offer (play : Play) (choices : List Choice) : Play × Option Fault :=
  let (result, records) := offered play.state choices
  let play := { play with log := records ++ play.log }
  match result with
  | .error fault => (play, some fault)
  | .ok [] => (play.note (.nothingOffered play.place), none)
  | .ok visible => ({ play with status := .awaitingChoice play.place visible }, none)

/-! ## Walking -/

/-- Does what a node says. -/
def execute (play : Play) : Node → Play × Option Fault
  | .text run => (play.display run, none)
  | .change change =>
    match change.apply play.state with
    | .error fault => (play, some fault)
    | .ok state =>
      let play := { play with state }
      (if state.isGameOver then play.halt .gameOver else play, none)
  | .conditional condition thenNodes elseNodes =>
    match condition.evaluate play.state with
    | .error fault => (play, some fault)
    | .ok truth =>
      match if truth then thenNodes else elseNodes with
      | [] => (play, none)
      | branch => ({ play with cursors := { nodes := branch } :: play.cursors }, none)
  | .menu choices => play.offer choices
  | .jump destination => play.transfer destination
  | .unknown form => (play, some (.unsupportedNode form))

/-- The play with its status telling how far it has come, if it is running. -/
def refresh (play : Play) : Play :=
  if play.status.isRunning then { play with status := .running play.place play.blockIndex }
  else play

/-- Passes the next node. A play that is not running stays as it is. -/
def step (play : Play) : Play × Option Fault :=
  if play.status.isRunning then
    match Cursor.takeNode play.cursors with
    | none => (play.halt (.blockExhausted play.place), none)
    | some (node, cursors) =>
      match { play with cursors }.execute node with
      | (next, none) => (next.refresh, none)
      | (next, some fault) => (next, some fault)
  else (play, none)

/-- Steps until the play stops running, at most so many times; then it halts at `limit`. -/
def runSteps (limit : Int) : Nat → Play → Play × Option Fault
  | 0, play =>
    if play.status.isRunning then
      ((play.note (.stepLimitReached limit play.place)).halt (.stepLimit play.place), none)
    else (play, none)
  | count + 1, play =>
    if play.status.isRunning then
      match play.step with
      | (next, none) => runSteps limit count next
      | (next, some fault) => (next, some fault)
    else (play, none)

/-- Steps until the play waits for a choice or halts, which it does after `limit` steps at most. -/
def run (play : Play) (limit : Int := defaultStepLimit) : Play × Option Fault :=
  runSteps limit limit.toNat play

/-- Runs on, unless something has failed. -/
def andRun : Play × Option Failure → Play × Option Failure
  | (play, none) => let (next, fault) := play.run; (next, fault.map .fault)
  | (play, some failure) => (play, some failure)

/-! ## Starting -/

/-- Enters the block to start with, the entry block of the file unless another is named. -/
def enterFile (play : Play) (fileId : String) (block : Option String) : Play × Option Failure :=
  match play.library.resolve (.file fileId block) fileId with
  | .error fault => (play, some (.fault fault))
  | .ok outcome =>
    let play := play.absorb outcome
    match outcome.result with
    | .ok scene => (play.enter scene, none)
    | .error error => (play, some (.unresolved error))

/-- Enters the block to start with and runs. -/
def start (play : Play) (fileId : String) (block : Option String := none) :
    Play × Option Failure :=
  andRun (play.enterFile fileId block)

/-! ## Choosing -/

/-- The choice that is selected from a menu. -/
def selected (choices : List Choice) : Selection → Except InputError Choice
  | .index index =>
    if index < 0 then .error (.outOfRange index choices.length)
    else match choices[index.toNat]? with
      | some choice => .ok choice
      | none => .error (.outOfRange index choices.length)
  | other => .error (.notAnIndex other.shown)

/-- Makes a choice that is pending and goes where it leads. -/
def follow (play : Play) (selection : Selection) : Play × Option Failure :=
  match play.status with
  | .awaitingChoice _ choices =>
    match selected choices selection with
    | .error error => (play, some (.refused error))
    | .ok choice =>
      let play := play.note (.chose choice.label choice.destination)
      let play := { play with status := .running play.place play.blockIndex }
      let (next, fault) := play.transfer choice.destination
      (next, fault.map .fault)
  | _ => (play, some (.refused .noChoicePending))

/-- Makes a choice that is pending and runs from where it leads. -/
def choose (play : Play) (selection : Selection) : Play × Option Failure :=
  andRun (play.follow selection)

end Play
end Gamebook
