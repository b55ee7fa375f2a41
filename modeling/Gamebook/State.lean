/-
  The state of a story in play: flags, counters, and the place last entered.

  A flag that was never written is down and a counter that was never written is zero, so a story may
  ask for names that nothing has written yet. Two names have a meaning of their own: the counter
  `score`, and the flag `game_over`, which ends a play.
-/
import Gamebook.Table
import Gamebook.Text.Numeral
import Gamebook.Text.Quoted

namespace Gamebook

/-- A block of a story file. -/
structure Place where
  file : String := ""
  block : String := ""
deriving DecidableEq, Inhabited

/-- The file and the block with a colon between them. -/
def Place.text (place : Place) : String := place.file ++ ":" ++ place.block

/-- What the blocks of a running story share. -/
structure State where
  name : String := "Interactive Fiction"
  flags : Table Bool := ∅
  counters : Table Int := ∅
  progress : Place := {}
deriving Inhabited

namespace State

/-- The counter that keeps the score. -/
def scoreCounter : String := "score"

/-- The flag that ends a play. -/
def gameOverFlag : String := "game_over"

/-! ## Reading -/

/-- Whether a flag is up. -/
def flag (state : State) (name : String) : Bool := (state.flags.get? name).getD false

/-- The value of a counter. -/
def counter (state : State) (name : String) : Int := (state.counters.get? name).getD 0

/-- The play is over. -/
def isGameOver (state : State) : Bool := state.flag gameOverFlag

/-! ## Writing -/

/-- Puts a flag up or down. -/
def setFlag (state : State) (name : String) (value : Bool := true) : State :=
  { state with flags := state.flags.insert name value }

/-- Gives a counter a value. -/
def setCounter (state : State) (name : String) (value : Int) : State :=
  { state with counters := state.counters.insert name value }

/-- Adds to a counter. -/
def adjustCounter (state : State) (name : String) (amount : Int) : State :=
  state.setCounter name (state.counter name + amount)

/-- Adds to the score. -/
def addScore (state : State) (amount : Int) : State := state.adjustCounter scoreCounter amount

/-- Records the place that was entered. -/
def setProgress (state : State) (place : Place) : State := { state with progress := place }

@[simp] theorem flag_setFlag (state : State) (name : String) (value : Bool) (other : String) :
    (state.setFlag name value).flag other = if other = name then value else state.flag other := by
  by_cases h : other = name <;> simp [flag, setFlag, h]

@[simp] theorem counter_setCounter (state : State) (name : String) (value : Int)
    (other : String) :
    (state.setCounter name value).counter other =
      if other = name then value else state.counter other := by
  by_cases h : other = name <;> simp [counter, setCounter, h]

/-! ## Description -/

/-- The entries of a table between braces, in ascending order of their names. -/
def describeTable {α : Type} (valueText : α → String) (table : Table α) : String :=
  let entries := table.entries.map fun entry => Text.quoted entry.1 ++ ": " ++ valueText entry.2
  "\x7b" ++ String.intercalate ", " entries ++ "\x7d"

/-- How a flag is shown. -/
def truthText (value : Bool) : String := if value then "True" else "False"

/-- A summary for the author of a story, one line for each part of the state. -/
def describe (state : State) : String :=
  "  Name: " ++ state.name ++ "\n"
    ++ "  Progress: [Story: " ++ state.progress.file ++ ", Block: " ++ state.progress.block ++ "]\n"
    ++ "  Flags: " ++ describeTable truthText state.flags ++ "\n"
    ++ "  Counters: " ++ describeTable Text.integer state.counters ++ "\n"

end State
end Gamebook
