/-
  Destinations as they are written: a block, or a file and a block with a colon between them. A
  file with nothing after the colon stands for the file's entry block.
-/
import Gamebook.Markup.Name
import Gamebook.Markup.Problem
import Gamebook.Story
import Gamebook.Text.Blank

namespace Gamebook.Markup

open Gamebook.Text

/-- Reads a destination that begins in column `column`. -/
def readDestination (column : Nat) (text : List Char) : Except Flaw Destination :=
  let token := trim text
  let flaw (problem : Problem) := Flaw.at column token problem
  let written := String.ofList token
  if token.isEmpty then .error (flaw .missingDestination)
  else if token.contains ':' then
    let (file, block) := splitFirst ':' token
    if !isFileName file then .error (flaw (.invalidDestinationFile written))
    else if !block.isEmpty && !isName block then .error (flaw (.invalidDestinationBlock written))
    else
      .ok (.file (String.ofList file) (if block.isEmpty then none else some (String.ofList block)))
  else if isName token then .ok (.block written)
  else .error (flaw (.invalidDestination written))

end Gamebook.Markup
