/-
  Painting a story on a terminal.

  A line that begins with two spaces is a prompt: an empty line goes before it, and its runs
  without a colour are painted in cyan. In typewriter mode every character is written by itself
  and followed by a short pause, and every finished line is followed by a longer one.
-/
import Gamebook.Text.Numeral

namespace Gamebook

/-! ## Colours -/

/-- The number of a colour in a terminal's sequences. -/
def colorNumber? (color : String) : Option Nat :=
  [("red", 31), ("green", 32), ("yellow", 33), ("blue", 34), ("purple", 35), ("cyan", 36),
   ("white", 37)].lookup color

/-- The sequence that turns on the colour of a number; the number zero turns colours off. -/
def colorSequence (number : Nat) : String := "\x1b[" ++ Text.natural number ++ "m"

/-- The text in a colour. Text without a known colour is left as it is, and so is empty text. -/
def colorize (text : String) (color : Option String) : String :=
  match color.bind colorNumber? with
  | none => text
  | some number =>
    if text.isEmpty then text else colorSequence number ++ text ++ colorSequence 0

/-! ## The console -/

/-- How text appears. -/
inductive TextMode where
  | instant
  | typewriter
deriving DecidableEq, Inhabited

namespace TextMode

/-- The name of a mode. -/
def text : TextMode → String
  | instant => "instant"
  | typewriter => "typewriter"

/-- The mode of a name. -/
def ofText? (name : String) : Option TextMode :=
  [instant, typewriter].find? (·.text = name)

end TextMode

/-- A pause, after a character or after a line. -/
inductive Pause where
  | character
  | line
deriving DecidableEq

/-- The length of a pause in milliseconds. -/
def Pause.milliseconds : Pause → Nat
  | character => 24
  | line => 600

/-- What a console does to its terminal. -/
inductive ConsoleAct where
  | write (text : String)
  | flush
  | pause (pause : Pause)
deriving DecidableEq

/-- A console in the course of a line. -/
structure Console where
  mode : TextMode := .instant
  useColor : Bool := true
  atLineStart : Bool := true
  /-- The colour of the runs of this line that have none of their own. -/
  lineColor : Option String := none
deriving DecidableEq, Inhabited

namespace Console

/-- The spaces that make a line a prompt. -/
def promptIndent : String := "  "

/-- The colour of a prompt. -/
def promptColor : String := "cyan"

/-- A run that begins a line and makes it a prompt. -/
def opensPrompt (console : Console) (text : String) (color : Option String) : Bool :=
  console.atLineStart && color.isNone && promptIndent.toList.isPrefixOf text.toList

/-- The text as this console paints it. -/
def paint (console : Console) (text : String) (color : Option String) : String :=
  if console.useColor then colorize text color else text

/-- The colour a run is painted in: its own, if that is any, or else the colour of the line. -/
def effectiveColor (console : Console) (color : Option String) : Option String :=
  match color with
  | some name => if name.isEmpty then console.lineColor else some name
  | none => console.lineColor

/-- Writes a run character by character. -/
def typeOut (console : Console) (text : String) (color : Option String) : List ConsoleAct :=
  text.toList.flatMap fun c =>
    [.write (console.paint (String.ofList [c]) color), .flush, .pause .character]

/-- Shows a run of text. -/
def render (console : Console) (text : String) (color : Option String) :
    Console × List ConsoleAct :=
  let prompt := console.opensPrompt text color
  let next : Console :=
    { console with
      atLineStart := false
      lineColor := if prompt then some promptColor else console.lineColor }
  let color := next.effectiveColor color
  let painted :=
    match console.mode with
    | .instant => [.write (next.paint text color), .flush]
    | .typewriter => next.typeOut text color
  (next, if prompt then .write "\n" :: painted else painted)

/-- Ends the line. -/
def endLine (console : Console) : Console × List ConsoleAct :=
  ({ console with atLineStart := true, lineColor := none },
    match console.mode with
    | .instant => [.write "\n", .flush]
    | .typewriter => [.write "\n", .flush, .pause .line])

end Console

/-! ## Headings and menus -/

/-- A heading with an empty line before it. -/
def headingText (title : String) : String := "\n=== " ++ title ++ " ===\n"

/-- Lines numbered from `number` on. -/
def numberedLines : (number : Nat) → List String → String
  | _, [] => ""
  | number, label :: rest =>
    Text.natural number ++ ") " ++ label ++ "\n" ++ numberedLines (number + 1) rest

/-- A numbered menu between empty lines; nothing for a menu without labels. -/
def menuText (labels : List String) : String :=
  if labels.isEmpty then "" else "\n" ++ numberedLines 1 labels ++ "\n"

end Gamebook
