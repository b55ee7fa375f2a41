/-
  The program: it gathers the arguments, the environment, the settings and the stories, begins a
  session, and carries out what the session does until it ends.

  The stories are read once, before the session begins.
-/
import Gamebook.Session
import Std.Time

namespace Gamebook.Main

/-! ## Reading -/

/-- What stands at a path of the file system. A file that cannot be opened counts as a folder,
    neither being readable. -/
def contentAt (path : String) : IO (Option Content) := do
  try
    let bytes ← IO.FS.readBinFile path
    match String.fromUTF8? bytes with
    | some text => return some (.text text)
    | none => return some .undecodable
  catch
    | .noFileOrDirectory .. => return none
    | _ => return some .folder

/-- Adds a folder of the file system, with all that is in it, to a disk. -/
partial def addFolder (path : String) (location : Location) (disk : Disk) : IO Disk := do
  let mut disk := if location.isEmpty then disk else disk.write location .folder
  let folder ← IO.FS.realPath path
  for entry in ← folder.readDir do
    let place := location ++ [entry.fileName]
    let inner := entry.path.toString
    if ← entry.path.isDir then disk ← addFolder inner place disk
    else if let some content ← contentAt inner then disk := disk.write place content
  return disk

/-- Adds a folder if it can be read. -/
def addFolderIfThere (path : Path) (disk : Disk) : IO Disk := do
  try addFolder path.text path.location disk catch _ => return disk

/-- Adds the file at a path, if it is there. -/
def addFile (path : Path) (disk : Disk) : IO Disk := do
  match ← contentAt path.text with
  | some content => return disk.write path.location content
  | none => return disk

/-- The folder that stands for the stories that come with the program. -/
def bundledFolder : Path := { components := ["(bundled stories)"] }

/-- Everything that a session is begun with. -/
def gather (arguments : Arguments) : IO Setup := do
  let storiesVariable ← IO.getEnv "INTFIC_STORIES"
  let home := Path.ofString ((← IO.getEnv "HOME").getD "")
  let setup : Setup :=
    { arguments
      debug := debugEnabled (← IO.getEnv "INTFIC_DEBUG")
      storiesVariable
      bundled := bundledFolder
      home
      settings := ← contentAt (Settings.pathBelow home).text }
  let library := Session.libraryOf setup
  if library.base = bundledFolder then return setup
  else
    let disk ← addFolderIfThere library.base setup.disk
    match arguments.file with
    | .nothing => return { setup with disk }
    | .text file => return { setup with disk := ← addFile (library.pathOf file) disk }

/-! ## Acting -/

/-- The time of day in front of a line of the log. -/
def timeStamp : IO String := do
  try return (← Std.Time.PlainDateTime.now).format "uuuu-MM-dd HH:mm:ss,SSS "
  catch _ => return ""

/-- Writes the file of settings. -/
def save (home : Path) (text : String) : IO Unit := do
  IO.FS.createDirAll (home.join (.ofString ".config/intfic")).text
  IO.FS.writeFile (Settings.pathBelow home).text text

/-- Carries out an effect. -/
def perform (home : Path) : Effect → IO Unit
  | .out text => IO.print text
  | .err text => IO.eprint text
  | .logged record => do IO.eprintln ((← timeStamp) ++ record.line)
  | .flush => do (← IO.getStdout).flush
  | .pause pause => IO.sleep pause.milliseconds.toUInt32
  | .prompt text => do
    IO.print text
    (← IO.getStdout).flush
  | .saveSettings text => save home text

/-- The next reply, without its line end, or nothing when there are no more. -/
def nextReply : IO (Option String) := do
  let line ← (← IO.getStdin).getLine
  if line.isEmpty then return none
  else return some (String.ofList (line.toList.takeWhile fun c => c ≠ '\n' && c ≠ '\r'))

/-- Carries a session through to its end. -/
partial def carryOn (home : Path) (session : Session) : IO UInt32 := do
  session.effects.reverse.forM (perform home)
  let session := { session with effects := [] }
  match session.phase with
  | .asking => carryOn home (session.answer (← nextReply))
  | .ended exitCode => return exitCode.toUInt32
  | .broken fault => do
    IO.eprintln fault.message
    return 1

/-- How the program is used. -/
def usage : String :=
  "usage: intfic [-h] [--stories STORIES] [--file FILE] [--block BLOCK] [--name NAME]\n"
    ++ "              [--text-mode \x7binstant,typewriter\x7d] [--remember] [-v]\n"

/-- Runs the program. -/
def run (texts : List String) : IO UInt32 := do
  match Arguments.read texts with
  | .ok arguments =>
    let setup ← gather arguments
    carryOn setup.home (Session.begin setup)
  | .error stop => do
    match stop with
    | .help => IO.print usage
    | .misuse => IO.eprint usage
    return stop.exitCode.toUInt32

end Gamebook.Main

/-- The command line. -/
def main (texts : List String) : IO UInt32 := Gamebook.Main.run texts
