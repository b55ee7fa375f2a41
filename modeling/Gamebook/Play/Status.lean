/-
  Where a play stands: running, waiting for a choice, or halted; and the errors of starting it and
  of choosing.
-/
import Gamebook.Library

namespace Gamebook

/-! ## Halting -/

/-- Why a play halted. -/
inductive Halt where
  | notStarted
  | blockExhausted (place : Place)
  /-- A jump or a choice led nowhere. -/
  | unresolved (destination : Destination) (cause : ResolutionError)
  | gameOver
  | stepLimit (place : Place)
deriving DecidableEq

namespace Halt

/-- The kind of a halt, in words. -/
def reason : Halt → String
  | notStarted => "not started"
  | blockExhausted _ => "block exhausted"
  | unresolved _ _ => "unresolved destination"
  | gameOver => "game over"
  | stepLimit _ => "step limit reached"

/-- What more there is to say about a halt. -/
def details : Halt → Option String
  | notStarted | gameOver => none
  | blockExhausted place | stepLimit place => some place.text
  | unresolved _ cause => some cause.message

/-- The destination that led nowhere, and why it did. -/
def error? : Halt → Option (Destination × ResolutionError)
  | unresolved destination cause => some (destination, cause)
  | _ => none

end Halt

/-- The wording of a destination that leads nowhere. -/
def Destination.errorMessage (destination : Destination) (cause : ResolutionError) : String :=
  "Cannot go to '" ++ destination.text ++ "': " ++ cause.message

/-! ## Status -/

/-- Where a play stands. -/
inductive Status where
  /-- In a block, so many of whose nodes have been passed. -/
  | running (place : Place) (index : Nat)
  | awaitingChoice (place : Place) (choices : List Choice)
  | halted (halt : Halt)
deriving DecidableEq

/-- The play goes on by itself. -/
def Status.isRunning : Status → Bool
  | running .. => true
  | _ => false

/-! ## Choosing -/

/-- What a caller hands in as a choice. -/
inductive Selection where
  | index (index : Int)
  | truth (value : Bool)
  | text (text : String)
  | nothing
  /-- A number with decimal places: so many units, of which ten to the power `places` make one. -/
  | fraction (units : Int) (places : Nat)
  | list (items : List Selection)
  | record (fields : List (String × Selection))
deriving Inhabited

mutual

/-- A selection as messages show it. -/
def Selection.shown : Selection → String
  | .index i => Text.integer i
  | .truth value => if value then "True" else "False"
  | .text content => Text.quoted content
  | .nothing => "None"
  | .fraction units places => Text.decimal units places
  | .list items => "[" ++ String.intercalate ", " (Selection.shownItems items) ++ "]"
  | .record fields => "\x7b" ++ String.intercalate ", " (Selection.shownFields fields) ++ "\x7d"

/-- The items of a list as messages show them. -/
def Selection.shownItems : List Selection → List String
  | [] => []
  | item :: rest => item.shown :: Selection.shownItems rest

/-- The fields of a record as messages show them. -/
def Selection.shownFields : List (String × Selection) → List String
  | [] => []
  | (name, value) :: rest =>
    (Text.quoted name ++ ": " ++ value.shown) :: Selection.shownFields rest

end

/-- Why a choice is refused. -/
inductive InputError where
  | noChoicePending
  /-- The choice is no whole number. -/
  | notAnIndex (shown : String)
  | outOfRange (index : Int) (count : Nat)
deriving DecidableEq

/-- The wording of a refusal. -/
def InputError.message : InputError → String
  | noChoicePending => "No choice is pending."
  | notAnIndex shown => "Choice must be an integer, got " ++ shown ++ "."
  | outOfRange index count =>
    "Choice " ++ Text.integer index ++ " is out of range; expected 0 to "
      ++ Text.integer ((count : Int) - 1) ++ "."

/-- Why an operation on a play failed. -/
inductive Failure where
  /-- The block to start with cannot be found. -/
  | unresolved (error : ResolutionError)
  | refused (error : InputError)
  | fault (fault : Fault)
deriving DecidableEq

end Gamebook
