/-
  Faults: values that this library has no meaning for.

  The first five kinds arise from stories that were put together by hand, out of parts of a form
  that is unknown here, and the last three from options of the command line that were given
  nothing. A fault is kept apart from the errors that belong to a story, a file or a
  choice: nothing in this library recovers from it.
-/
import Gamebook.Text.Quoted

namespace Gamebook

/-- A value that has no meaning here. -/
inductive Fault where
  | unsupportedCondition (form : String)
  | unsupportedDestination (form : String)
  | unsupportedNode (form : String)
  | unknownComparison (symbol : String)
  | unknownOperation (name : String)
  /-- A path holds the character NUL. -/
  | nulInPath
  /-- Digits, of which one at least is no decimal digit. -/
  | notDecimal (digits : String)
  /-- A folder stands where a file is to be written. -/
  | folderInTheWay (path : String)
  /-- The folder of the stories was to be named, and was not. -/
  | storiesNotNamed
  /-- The file to start with was to be named, and was not. -/
  | fileNotNamed
  /-- The block to start with was to be named, and was not. -/
  | blockNotNamed
deriving DecidableEq

/-- How many characters of a quoted number a message shows. -/
def Fault.shownDigits : Nat := 200

/-- The wording of a fault. -/
def Fault.message : Fault → String
  | unsupportedCondition form => "Unsupported predicate: " ++ Text.quoted form
  | unsupportedDestination form => "Unsupported destination: " ++ Text.quoted form
  | unsupportedNode form => "Unsupported node: " ++ Text.quoted form
  | unknownComparison symbol => Text.quoted symbol
  | unknownOperation name => "Unknown directive op '" ++ name ++ "'."
  | nulInPath => "embedded null byte"
  | notDecimal digits =>
    "invalid literal for int() with base 10: "
      ++ String.ofList ((Text.quote digits.toList).take shownDigits)
  | folderInTheWay path => "[Errno 21] Is a directory: " ++ Text.quoted path
  | storiesNotNamed => "expected str, bytes or os.PathLike object, not list"
  | fileNotNamed => "unsupported operand type(s) for /: 'PosixPath' and 'list'"
  | blockNotNamed => "unhashable type: 'list'"

end Gamebook
