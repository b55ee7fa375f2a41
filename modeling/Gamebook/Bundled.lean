/-
  The stories that come with the program.

  They are two short files in story markup, the first of which a session begins with unless it is told
  otherwise.
-/
import Gamebook.Disk

namespace Gamebook.Bundled

/-- The lines of the walk home. -/
def walkHome : List String :=
  ["# Example story: a walk home at night.",
   "# Blocks run top to bottom; options and jumps move between them.",
   "",
   "@entry start",
   "",
   "@block start",
   "It's nearly pitch black out tonight. There's a bit of light from the city up north, but no stars are peeking out through the clouds.",
   "You wonder if he'll come after you; if you're going to be in more trouble for storming out like that.",
   "As you turn you see the flash of a car's headlights from the direction you came.",
   "@set counter:courage 1",
   "",
   "  What do you do?",
   "@option Keep walking [walk] -> walk_car",
   "@option Hide from the car [hide, duck] -> hide_car",
   "@option Run from the car [run, @RETURNS] -> run_car",
   "@end",
   "",
   "@block walk_car",
   "You keep your pace steady and your eyes forward.",
   "The car slows beside you. The window rolls down.",
   "\x7byellow\x7d\"Get in, it's cold out here.\"\x7b/yellow\x7d",
   "@set flag:talked_to_dad",
   "@incr counter:courage",
   "@jump home",
   "@end",
   "",
   "@block hide_car",
   "You duck behind a hedge and hold your breath.",
   "The car crawls past, then stops at the intersection for a long moment before driving on.",
   "@set flag:hid",
   "@decr counter:courage",
   "@option Head home anyway -> home",
   "@option Keep going north -> example_2.txt:",
   "@end",
   "",
   "@block run_car",
   "You break into a sprint, sneakers slapping the wet pavement.",
   "\x7bred\x7dYou trip on the curb and scrape your palms.\x7b/red\x7d",
   "@incr counter:score 5",
   "@jump home",
   "@end",
   "",
   "@block home",
   "@if flag:talked_to_dad",
   "The ride home is silent, but not unkind.",
   "@else",
   "You let yourself in through the back door.",
   "@endif",
   "@if counter:courage >= 2",
   "You feel ready to talk about what happened.",
   "@endif",
   "@option Go to bed [sleep] -> bedtime",
   "@option Go back outside -> example_2.txt:crossroads if counter:courage >= 1 and not flag:talked_to_dad",
   "@end",
   "",
   "@block bedtime",
   "You pull the blanket over your head. \x7bblue\x7dTomorrow is another day.\x7b/blue\x7d",
   "@end"]

/-- The lines of the northern end of the street. -/
def northEnd : List String :=
  ["# Second file of the example story, reached from example_1.txt.",
   "",
   "@block crossroads",
   "The road north splits at an old stone marker.",
   "@if counter:courage > 0",
   "\x7bgreen\x7dYou feel brave enough to pick a direction.\x7b/green\x7d",
   "@else",
   "Your legs feel heavy.",
   "@endif",
   "@option Take the north road -> north_road",
   "@option Turn back -> example_1.txt:home",
   "@end",
   "",
   "@block north_road",
   "The lights of the city grow brighter with every step.",
   "@incr counter:score 10",
   "@set flag:game_over",
   "This line is never shown, the story ends when game_over is set.",
   "@end"]

/-- The files of the bundled stories with their names. -/
def files : List (String × List String) :=
  [("example_1.txt", walkHome), ("example_2.txt", northEnd)]

/-- A file of some lines. -/
def content (lines : List String) : Content := .text (String.join (lines.map (· ++ "\n")))

/-- Puts the bundled stories into a folder. -/
def place (folder : Location) (disk : Disk) : Disk :=
  files.foldl (fun disk file => disk.write (folder ++ [file.1]) (content file.2)) disk

end Gamebook.Bundled
