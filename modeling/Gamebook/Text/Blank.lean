/-
  Blanks, and the ways a line is trimmed and divided at them.

  A blank is a character of the list `blankRuns`: the controls that separate lines, fields and
  records, the space, and the spaces of other widths. A zero-width space, a byte order mark and a
  Mongolian vowel separator are no blanks.
-/
import Gamebook.Text.CodeRun
import Gamebook.Text.Search

namespace Gamebook.Text

/-! ## The characters -/

/-- The code points of the blanks. -/
def blankRuns : List CodeRun :=
  [(9, 13), (28, 32), (133, 133), (160, 160), (5760, 5760), (8192, 8202), (8232, 8233),
   (8239, 8239), (8287, 8287), (12288, 12288)]

/-- The character is a blank. -/
def isBlank (c : Char) : Bool := inRuns blankRuns c

/-! ## Trimming -/

/-- The text without the blanks in front. -/
def trimLeft (text : List Char) : List Char := text.dropWhile isBlank

/-- The text without the blanks at its end. -/
def trimRight (text : List Char) : List Char := (text.reverse.dropWhile isBlank).reverse

/-- The text without the blanks at either end. -/
def trim (text : List Char) : List Char := trimRight (trimLeft text)

/-- How many blanks stand in front of the text. -/
def indentation (text : List Char) : Nat := (text.takeWhile isBlank).length

/-- The text holds blanks only, or nothing. -/
def isBlankText (text : List Char) : Bool := text.all isBlank

/-! ## Words -/

/-- The maximal runs of characters that are no blanks, from left to right. -/
def words (text : List Char) : List (List Char) := (splitWhere isBlank text).filter (· ≠ [])

end Gamebook.Text
