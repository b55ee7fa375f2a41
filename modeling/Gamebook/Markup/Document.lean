/-
  Story files: their lines, and the story that a whole text is.

  A line ends at a line feed, a carriage return, or both in this order. Byte order marks in front
  are left out, and the last line may or may not be ended.
-/
import Gamebook.Markup.Draft

namespace Gamebook.Markup

open Gamebook.Text

/-! ## Lines -/

/-- The text with every line end written as one line feed. -/
def unifyBreaks : List Char → List Char
  | [] => []
  | '\r' :: '\n' :: rest => '\n' :: unifyBreaks rest
  | '\r' :: rest => '\n' :: unifyBreaks rest
  | c :: rest => c :: unifyBreaks rest

/-- Byte order mark. -/
def byteOrderMark : Char := '\ufeff'

/-- Leaves out the last line when it is empty. -/
def dropEmptyEnd (lines : List (List Char)) : List (List Char) :=
  if lines.getLast? = some [] then lines.dropLast else lines

/-- The lines of a text. -/
def linesOf (text : List Char) : List (List Char) :=
  dropEmptyEnd (splitWhere (· = '\n') (unifyBreaks (text.dropWhile (· = byteOrderMark))))

/-! ## Whole files -/

/-- Reads lines as the story of a file. -/
def readLines (grammar : Grammar) (fileId : String) (lines : List (List Char)) :
    Except (Nat × Flaw) Story := do
  let draft ← Draft.takeLines grammar {} 1 lines
  draft.finish fileId

/-- Reads a text as the story of a file. -/
def readStory (grammar : Grammar) (fileId text : String) : Except ParseError Story :=
  match readLines grammar fileId (linesOf text.toList) with
  | .ok story => .ok story
  | .error (line, flaw) => .error { fileId, line, flaw }

end Gamebook.Markup
