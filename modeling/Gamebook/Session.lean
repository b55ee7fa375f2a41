/-
  A session: one reader, one story, from the command line to the exit code.

  A session is begun with a `Setup` and then handed the reader's replies one by one, for as long
  as it asks for them. What it does to the world is a list of effects, the newest first; carrying
  them out is left to the caller. Replies that are blank or mean nothing are asked for again.
-/
import Gamebook.Bundled
import Gamebook.Play
import Gamebook.Reply
import Gamebook.Session.Arguments
import Gamebook.Settings

namespace Gamebook

/-! ## Effects -/

/-- Something that a session does to the world. -/
inductive Effect where
  /-- Text for the reader. -/
  | out (text : String)
  /-- A message beside the story. -/
  | err (text : String)
  /-- A line of the log. -/
  | logged (record : Record)
  | flush
  | pause (pause : Pause)
  /-- A reply is asked for. -/
  | prompt (text : String)
  /-- The file of settings gets this text. -/
  | saveSettings (text : String)

/-- The effect of what a console does to its terminal. -/
def ConsoleAct.effect : ConsoleAct → Effect
  | write text => .out text
  | flush => .flush
  | pause p => .pause p

/-- A line of the log as it is written. -/
def Record.line (record : Record) : String :=
  "[" ++ record.level.text ++ "] " ++ record.source ++ ": " ++ record.message

/-- Shows what a play has shown. -/
def Console.display (console : Console) : Shown → Console × List ConsoleAct
  | .text content color => console.render content color
  | .lineEnd => console.endLine

/-! ## Sessions -/

/-- What a session is begun with. -/
structure Setup where
  arguments : Arguments := {}
  /-- Everything is logged, and the state is shown in the end. -/
  debug : Bool := false
  /-- The folder of the stories, as the environment names it. -/
  storiesVariable : Option String := none
  /-- The folder of the stories that come with the program. -/
  bundled : Path := {}
  home : Path := {}
  /-- The file of settings, if it is there. -/
  settings : Option Content := none
  disk : Disk := {}

/-- Debugging is turned on by this value of its variable. -/
def debugEnabled (value : Option String) : Bool := value == some "1"

/-- Where a session stands. -/
inductive Phase where
  /-- A reply is wanted. -/
  | asking
  | ended (exitCode : Nat)
  /-- The session broke off. -/
  | broken (fault : Fault)
deriving DecidableEq

/-- A session under way. -/
structure Session where
  play : Play
  console : Console := {}
  /-- Every event is logged, and not warnings alone. -/
  verbose : Bool := false
  debug : Bool := false
  phase : Phase := .asking
  effects : List Effect := []

namespace Session

/-! ## Small steps -/

/-- Adds effects, given in their order. -/
def emit (session : Session) (effects : List Effect) : Session :=
  { session with effects := effects.reverse ++ session.effects }

/-- Adds the lines of the log, given the newest first, that are to be seen. -/
def emitLog (session : Session) (records : List Record) : Session :=
  session.emit <|
    (records.reverse.filter fun record => session.verbose || record.level == .warning).map .logged

/-- Brings before the reader what a play has shown. -/
def display (session : Session) (shown : Shown) : Session :=
  let (console, acts) := session.console.display shown
  { session.emit (acts.map ConsoleAct.effect) with console }

/-- Takes over a play, and brings what it has logged and shown before the reader. -/
def settle (session : Session) (play : Play) : Session :=
  let session := play.shown.reverse.foldl display (session.emitLog play.log)
  { session with play := { play with shown := [], log := [] } }

/-- Breaks off. -/
def breakOff (session : Session) (fault : Fault) : Session :=
  { session with phase := .broken fault }

/-- Ends with an exit code. -/
def stop (session : Session) (exitCode : Nat) : Session := { session with phase := .ended exitCode }

/-! ## Ending -/

/-- Ends because the story cannot be started. -/
def failStart (session : Session) (message : String) : Session :=
  (session.emit [.err ("Could not start story: " ++ message ++ "\n")]).stop 1

/-- The parting words for a halt, and the exit code. -/
def parting (halt : Halt) : List Effect × Nat :=
  match halt with
  | .unresolved .. =>
    ([.err ("Story stopped: " ++ halt.reason ++ " (" ++ halt.details.getD "" ++ ")\n")], 1)
  | .gameOver => ([.out "Game over.\n", .out "The End.\n"], 0)
  | .blockExhausted _ => ([.out "The End.\n"], 0)
  | .notStarted | .stepLimit _ =>
    ([.out ("Story stopped: " ++ halt.reason ++ "\n"), .out "The End.\n"], 0)

/-- The state of the story under a heading, when debugging. -/
def summary (session : Session) : List Effect :=
  if session.debug then
    [.out (headingText "Game State"), .out (session.play.state.describe ++ "\n")]
  else []

/-- Ends because the reader leaves or the play has halted. -/
def finish (session : Session) : Session :=
  let (words, exitCode) :=
    match session.play.status with
    | .halted halt => parting halt
    | _ => ([.out "See you next time!\n"], 0)
  ((session.emit words).emit session.summary).stop exitCode

/-! ## Asking -/

/-- The text in front of a reply. -/
def promptText : String := "> "

/-- Goes on where the play stands: asks for a choice, or ends. -/
def proceed (session : Session) : Session :=
  match session.play.status with
  | .awaitingChoice _ choices =>
    { session.emit [.out (menuText (choices.map (·.label))), .prompt promptText] with
      phase := .asking }
  | _ => session.finish

/-- Goes on after an operation on the play, which may have failed. -/
def goOn (session : Session) (failure : Option Failure) : Session :=
  match failure with
  | none => session.proceed
  | some (.refused error) => (session.emit [.out (error.message ++ "\n")]).proceed
  | some (.unresolved error) => session.failStart error.message
  | some (.fault fault) => session.breakOff fault

/-- Says that a reply means nothing, unless it is blank. -/
def puzzled (session : Session) (reply : String) : Session :=
  if Text.isBlankText reply.toList then session
  else session.emit [.out (Reply.unrecognised ++ "\n")]

/-- Takes a reply to the menu of `choices`. -/
def takeReply (session : Session) (choices : List Choice) (reply : String) : Session :=
  if Reply.isExit reply then session.finish
  else match Reply.matchOption reply choices with
    | .error fault => session.breakOff fault
    | .ok none => (session.puzzled reply).proceed
    | .ok (some index) =>
      let (play, failure) := session.play.choose (.index index)
      (session.settle play).goOn failure

/-- Takes a reply, or the end of the replies. A session that asks for none stays as it is. -/
def answer (session : Session) (reply : Option String) : Session :=
  match session.phase, session.play.status with
  | .asking, .awaitingChoice _ choices =>
    match reply with
    | some reply => session.takeReply choices reply
    | none => session.finish
  | _, _ => session

/-- Takes replies for as long as they are asked for; gives back those that were not. When replies
    run out, their end is taken too. -/
def converse (session : Session) : List String → Session × List String
  | [] => (session.answer none, [])
  | reply :: rest =>
    if session.phase = .asking then (session.answer (some reply)).converse rest
    else (session, reply :: rest)

/-! ## Beginning -/

/-- The library of a session. -/
def libraryOf (setup : Setup) : Library :=
  let given := setup.arguments.stories.bind Given.text?
  { base := Library.storiesPath given setup.storiesVariable setup.bundled
    disk := Bundled.place setup.bundled.location setup.disk
    onDemand := true }

/-- Starts the story of a file that has been loaded. -/
def startStory (session : Session) (file : String) (block : Option Given) : Session :=
  match block with
  | some .nothing => session.breakOff .blockNotNamed
  | _ =>
    let (play, failure) := session.play.start file (block.bind Given.text?)
    (session.settle play).goOn failure

/-- Loads the file to start with and starts its story. -/
def openFile (session : Session) (file : String) (block : Option Given) : Session :=
  match session.play.library.loadFile file with
  | .error fault => session.breakOff fault
  | .ok outcome =>
    let session := session.settle (session.play.absorb outcome)
    match outcome.result with
    | .error error => session.failStart error.message
    | .ok _ => session.startStory file block

/-- Opens the story that the arguments ask for. -/
def openStory (session : Session) (arguments : Arguments) : Session :=
  match arguments.stories, arguments.file with
  | some .nothing, _ => session.breakOff .storiesNotNamed
  | _, .nothing => session.breakOff .fileNotNamed
  | _, .text file => session.openFile file arguments.block

/-- Keeps the mode of text for other sessions, if that is wanted. -/
def remember (session : Session) (setup : Setup) : Session :=
  match setup.arguments.textMode with
  | some mode =>
    if !setup.arguments.remember then session
    else match (Settings.mk mode).save (Settings.pathBelow setup.home) setup.settings with
      | .error fault => session.breakOff fault
      | .ok text => session.emit [.saveSettings text]
  | none => session

/-- Begins a session. -/
def begin (setup : Setup) : Session :=
  let arguments := setup.arguments
  let (settings, records) := Settings.load (Settings.pathBelow setup.home) setup.settings
  let session : Session :=
    { play := { library := libraryOf setup, state := { name := arguments.name.shown } }
      console := { mode := arguments.textMode.getD settings.textMode }
      verbose := arguments.verbose || setup.debug
      debug := setup.debug }
  let session := (session.emitLog records).remember setup
  match session.phase with
  | .broken _ => session
  | _ => session.openStory arguments

end Session
end Gamebook
