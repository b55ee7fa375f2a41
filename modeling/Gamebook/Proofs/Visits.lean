/-
  The blocks that a play enters.

  A play keeps the place of the block that it entered last, and a cursor over its nodes, but not the
  block.  A library may have got another block under that name in the meantime.  So that one can say
  which block it was, `Play.visits` finds the blocks that some acts enter, by looking up what the
  acts look up, in the library as it is at that moment.

  The log of a play tells of every place that is entered.  `Play.Tells` compares the two: the blocks
  have the places that the log has got to tell of, one for one and in the same order.
-/
import Gamebook.Proofs.Acts
import Gamebook.Proofs.Inlining
import Gamebook.Proofs.LookUp

namespace Gamebook

open Markup

/-! ## The blocks that are entered

  Each of these follows one operation of the play and looks up what the operation looks up, at the
  same moment and in the same library.  Nothing else can be asked afterwards: a library may have got
  another story under the id in the meantime, and a play keeps the place of a block but not its
  nodes.

  The lists grow in front, like the log, so the block that was entered last is the head of the list.
  It is the one that the cursors of the play walk. -/

/-- The block that a look-up led to. -/
def scenesFound : Except Fault (Outcome ResolutionError Scene) → List Scene
  | .ok outcome =>
    match outcome.result with
    | .ok scene => [scene]
    | .error _ => []
  | .error _ => []

namespace Play

/-- The block that a destination leads to from here. -/
def transferVisits (play : Play) (destination : Destination) : List Scene :=
  scenesFound (play.library.resolve destination play.place.file)

/-- The block that a node leads to: jumps alone lead to blocks. -/
def nodeVisits (play : Play) : Node → List Scene
  | .jump destination => play.transferVisits destination
  | _ => []

/-- The block that a step enters. -/
def stepVisits (play : Play) : List Scene :=
  if play.status.isRunning then
    match Cursor.takeNode play.cursors with
    | some (node, _) => play.nodeVisits node
    | none => []
  else []

/-- The blocks that so many steps enter, the one entered last first. -/
def runStepsVisits : Nat → Play → List Scene
  | 0, _ => []
  | count + 1, play =>
    if play.status.isRunning then
      match play.step with
      | (next, none) => runStepsVisits count next ++ play.stepVisits
      -- A step with a fault ends the run, but what it has entered before that counts.
      | (_, some _) => play.stepVisits
    else []

/-- The blocks that a run enters. -/
def runVisits (play : Play) (limit : Int := defaultStepLimit) : List Scene :=
  runStepsVisits limit.toNat play

/-- The blocks that running on enters, unless something has failed. -/
def andRunVisits : Play × Option Failure → List Scene
  | (play, none) => play.runVisits
  | (_, some _) => []

/-- The block that starting enters. -/
def enterFileVisits (play : Play) (fileId : String) (block : Option String) : List Scene :=
  scenesFound (play.library.resolve (.file fileId block) fileId)

/-- The block that a choice enters. -/
def followVisits (play : Play) (selection : Selection) : List Scene :=
  match play.status with
  | .awaitingChoice _ choices =>
    match selected choices selection with
    | .ok choice => play.transferVisits choice.destination
    | .error _ => []
  | _ => []

/-- The blocks that an act enters. -/
def performVisits (play : Play) : Act → List Scene
  | .start fileId block =>
    andRunVisits (play.enterFile fileId block) ++ play.enterFileVisits fileId block
  | .enter fileId block => play.enterFileVisits fileId block
  | .choose selection => andRunVisits (play.follow selection) ++ play.followVisits selection
  | .follow selection => play.followVisits selection
  | .step => play.stepVisits
  | .run limit => play.runVisits limit
  | .load .. | .loadFile _ | .get _ | .writeFile .. | .setFlag .. | .setCounter .. => []

/-- The blocks that some acts enter one after the other, the one entered last first. -/
def visits (play : Play) : List Act → List Scene
  | [] => []
  | act :: acts => visits (play.perform act) acts ++ play.performVisits act

end Play

/-! ## What the log tells of them

  The definitions above repeat the look-ups of the play, so one has to see that they repeat them
  rightly.  The log is the witness: a play notes the place of every block that it enters and notes
  nothing else of that kind, so the places in the log can be held against the blocks found here. -/

/-- The place that a record tells of entering. -/
def Record.entered? : Record → Option Place
  | .entered place => some place
  | _ => none

/-- The places that a log tells of entering. -/
def placesEntered (log : List Record) : List Place := log.filterMap Record.entered?

theorem placesEntered_append (newer older : List Record) :
    placesEntered (newer ++ older) = placesEntered newer ++ placesEntered older :=
  List.filterMap_append

/-- Looking for a story enters nothing. -/
theorem Outcome.Finds.placesEntered {ε : Type} {library : Library} {fileId : String}
    {outcome : Outcome ε Story} (h : outcome.Finds library fileId) :
    Gamebook.placesEntered outcome.log = [] := by
  cases h <;> rfl

/-- Looking up a destination enters nothing, whether or not there is a block: entering comes after
    it, and is the business of the play. -/
theorem Library.placesEntered_resolve {library : Library} {destination : Destination}
    {currentFile : String} {outcome : Outcome ResolutionError Scene}
    (hresolve : library.resolve destination currentFile = .ok outcome) :
    placesEntered outcome.log = [] := by
  obtain ⟨fileId, block, hfind⟩ := exists_find_of_resolve hresolve
  obtain ⟨found, hfinds, rfl⟩ := exists_get_of_find hfind
  exact hfinds.placesEntered

namespace Play

/-- Between the one play and the other the log has got to tell of just these blocks. -/
def Tells (before after : Play) (entered : List Scene) : Prop :=
  placesEntered after.log = entered.map Scene.place ++ placesEntered before.log

theorem Tells.trans {first second third : Play} {earlier later : List Scene}
    (h : first.Tells second earlier) (hlater : second.Tells third later) :
    first.Tells third (later ++ earlier) := by
  rw [Tells, hlater, h, List.map_append, List.append_assoc]

variable {play : Play}

theorem Tells.absorb {ε α : Type} {outcome : Outcome ε α} (h : placesEntered outcome.log = []) :
    play.Tells (play.absorb outcome) [] := by
  rw [Tells, Play.absorb, placesEntered_append, h]
  rfl

/-- What a menu logs about the choices that it leaves out tells of no block. -/
theorem placesEntered_offered (state : State) (choices : List Choice) :
    placesEntered (offered state choices).2 = [] := by
  induction choices with
  | nil => rfl
  | cons choice rest ih =>
    rw [offered]
    dsimp only
    split
    -- A choice without a guard is offered and not logged.
    next => exact ih
    next guard _ =>
      split
      next => rfl
      next => exact ih
      next =>
        split
        next => rfl
        -- A choice that is left out is logged, but its record names no place.
        next => rw [placesEntered_append, ih]; rfl

end Play

end Gamebook
