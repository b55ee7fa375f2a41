/-
  What is done to a play from outside, one act after the other.

  A play is started and chosen for by its caller, who may also take single steps, load stories,
  write files and write to the state in between.  An act that fails leaves the play as it then
  stands, and the next one is done to that.

  Every property of plays that holds "whatever a caller does" is a property of `Play.performAll`,
  for acts in any number and any order, those that fail included.  `performAll_induction` is the way
  to prove it where the property can be said of one play; where it relates one play to a later one,
  see the histories.
-/
import Gamebook.Play

namespace Gamebook

/-- Something that a caller does to a play. -/
inductive Act where
  | start (fileId : String) (block : Option String)
  /-- Starting without running on. -/
  | enter (fileId : String) (block : Option String)
  | choose (selection : Selection)
  /-- Choosing without running on. -/
  | follow (selection : Selection)
  | step
  | run (limit : Int)
  | load (fileId text : String)
  | loadFile (fileId : String)
  /-- Looking up a story, which may load it. -/
  | get (fileId : String)
  | writeFile (location : Location) (content : Content)
  | setFlag (name : String) (value : Bool)
  | setCounter (name : String) (value : Int)

/-- The act is done to the play itself, and not to its library or to the files. -/
def Act.isOfPlay : Act → Bool
  | load .. | loadFile _ | get _ | writeFile .. => false
  | _ => true

/-- The act lets the play run on. -/
def Act.runsOn : Act → Bool
  | start .. | choose _ | run _ => true
  | _ => false

/-- By the act a caller writes to the state. -/
def Act.writesState : Act → Bool
  | setFlag .. | setCounter .. => true
  | _ => false

/-- What a caller gets back from an act that is done to a play: why it failed, if it did, and where
    the play stands afterwards, with all that it has shown. -/
structure Response where
  failure : Option Failure
  status : Status
  place : Place
  shown : List Shown
deriving DecidableEq

namespace Play

/-- Takes over what an operation of the library has done, if it could be done. -/
def absorbResult {ε α : Type} (play : Play) : Except Fault (Outcome ε α) → Play
  | .ok outcome => play.absorb outcome
  | .error _ => play

/-- The play after an act. -/
def perform (play : Play) : Act → Play
  | .start fileId block => (play.start fileId block).1
  | .enter fileId block => (play.enterFile fileId block).1
  | .choose selection => (play.choose selection).1
  | .follow selection => (play.follow selection).1
  | .step => play.step.1
  | .run limit => (play.run limit).1
  -- A caller reaches the library and the files past the play.
  | .load fileId text => play.absorb (play.library.load fileId text)
  | .loadFile fileId => play.absorbResult (play.library.loadFile fileId)
  | .get fileId => play.absorbResult (play.library.get fileId)
  | .writeFile location content =>
    { play with library := play.library.writeFile location content }
  | .setFlag name value => { play with state := play.state.setFlag name value }
  | .setCounter name value => { play with state := play.state.setCounter name value }

/-- The play after some acts in their order. -/
def performAll (play : Play) (acts : List Act) : Play := acts.foldl perform play

/-- Why an act fails, if it does. -/
def failure (play : Play) : Act → Option Failure
  | .start fileId block => (play.start fileId block).2
  | .enter fileId block => (play.enterFile fileId block).2
  | .choose selection => (play.choose selection).2
  | .follow selection => (play.follow selection).2
  | .step => play.step.2.map .fault
  | .run limit => (play.run limit).2.map .fault
  | .load .. | .loadFile _ | .get _ | .writeFile .. | .setFlag .. | .setCounter .. => none

/-- What the caller gets back from an act. -/
def response (play : Play) (act : Act) : Response :=
  let next := play.perform act
  { failure := play.failure act, status := next.status, place := next.place, shown := next.shown }

/-- What the caller gets back from some acts, one response for each act that is done to the play
    itself. -/
def responses (play : Play) : List Act → List Response
  | [] => []
  | act :: acts =>
    if act.isOfPlay then play.response act :: responses (play.perform act) acts
    else responses (play.perform act) acts

/-- A play to which nothing has been done. -/
def fresh (library : Library) (state : State) : Play := { library, state }

/-- What each act preserves, if it is admitted, holds after any number of admitted acts. -/
theorem performAll_induction {motive : Play → Prop} {admitted : Act → Prop}
    (hperform : ∀ play act, admitted act → motive play → motive (play.perform act)) {play : Play}
    (hplay : motive play) {acts : List Act} (hacts : ∀ act ∈ acts, admitted act) :
    motive (play.performAll acts) := by
  induction acts generalizing play with
  | nil => exact hplay
  | cons act acts ih =>
    -- The first act is done to the play at hand, the others to what it leaves.
    have hfirst := hperform play act (hacts act List.mem_cons_self) hplay
    exact ih hfirst fun other hother => hacts other (List.mem_cons_of_mem _ hother)

end Play
end Gamebook
