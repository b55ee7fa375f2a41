/-
  The built-in word lists: what readers type for yes, no and "not sure", for the directions, and to
  leave. All words are in the form that `Reply.sanitize` brings a reply into.
-/

namespace Gamebook

/-- An answer to a question. -/
inductive Answer where
  | yes
  | no
  | unsure
deriving DecidableEq

/-- A direction to go. -/
inductive Direction where
  | north
  | east
  | south
  | west
  | up
  | down
  | back
deriving DecidableEq

namespace WordList

/-- Words for yes. -/
def affirmatives : List String :=
  ["104", "affirmative", "alright", "aye", "ok", "okay", "please", "positive", "sure", "y", "yay",
   "ye", "yeah", "yeah ok", "yeah sure", "yep", "yes", "yes please", "yup"]

/-- Words for no. -/
def negatives : List String :=
  ["n", "nah", "nay", "negative", "never", "no", "nope", "no please", "not ok", "not okay",
   "no way"]

/-- Words of someone who does not know. -/
def unsuratives : List String :=
  ["dunno", "huh", "idk", "i dont know", "i dunno", "i guess", "maybe", "no clue", "no idea",
   "not sure", "shrug", "unsure", "what"]

/-- Words that leave a story. -/
def exits : List String := ["exit", "exit game", "quit", "quit game"]

/-- Words for a direction. -/
def directionWords : Direction → List String
  | .north => ["forward", "go forward", "go north", "n", "north", "northbound", "northward"]
  | .east => ["e", "east", "eastbound", "eastward", "go east", "go right", "right"]
  | .south => ["backward", "go backward", "go south", "s", "south", "southbound", "southward"]
  | .west => ["go left", "go west", "left", "w", "west", "westbound", "westward"]
  | .up => ["ascend", "climb", "climb up", "fly", "fly up", "go up", "rise", "u", "up"]
  | .down => ["climb down", "d", "descend", "down", "fall", "glide", "go down"]
  | .back => ["b", "back", "fall back", "go back", "r", "retreat", "return", "run", "run away"]

/-- The directions in the order in which they are tried. -/
def directions : List Direction := [.north, .east, .south, .west, .up, .down, .back]

/-- The lists that a keyword of an option can name, each with its name. -/
def named : List (String × List String) :=
  [("AFFIRMATIVES", affirmatives), ("NEGATIVES", negatives), ("UNSURATIVES", unsuratives),
   ("NORTHS", directionWords .north), ("EASTS", directionWords .east),
   ("SOUTHS", directionWords .south), ("WESTS", directionWords .west), ("UPS", directionWords .up),
   ("DOWNS", directionWords .down), ("RETURNS", directionWords .back)]

/-- A list of this name exists. -/
def isName (name : String) : Bool := (named.lookup name).isSome

/-- The words of a list; a name that no list has stands for no words. -/
def words (name : String) : List String := (named.lookup name).getD []

end WordList
end Gamebook
