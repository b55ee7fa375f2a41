/-
  A text in quotes, with everything that cannot be shown written as an escape.

  The quotes are single ones, unless the text holds a single quote and no double one. A backslash
  and the quote in use get a backslash; line feed, carriage return and tab have letters of their
  own; any other character that is not printable is written by its code point in the shortest of
  three widths of lower-case hexadecimal.
-/
import Gamebook.Text.Printable

namespace Gamebook.Text

/-- The lowest `width` hexadecimal digits of a number, leading zeros included. -/
def hexDigits : (width : Nat) → Nat → List Char
  | 0, _ => []
  | width + 1, n => hexDigits width (n / 16) ++ [Nat.digitChar (n % 16)]

/-- The mark that encloses the text. -/
def quoteMark (text : List Char) : Char :=
  if text.contains '\'' && !text.contains '"' then '"' else '\''

/-- One character between the marks. -/
def escapeChar (mark c : Char) : List Char :=
  if c = mark || c = '\\' then ['\\', c]
  else if c = '\n' then ['\\', 'n']
  else if c = '\r' then ['\\', 'r']
  else if c = '\t' then ['\\', 't']
  else if isPrintable c then [c]
  else if c.toNat < 0x100 then '\\' :: 'x' :: hexDigits 2 c.toNat
  else if c.toNat < 0x10000 then '\\' :: 'u' :: hexDigits 4 c.toNat
  else '\\' :: 'U' :: hexDigits 8 c.toNat

/-- The text between its marks. -/
def quote (text : List Char) : List Char :=
  let mark := quoteMark text
  mark :: text.flatMap (escapeChar mark) ++ [mark]

/-- The text between its marks, as a string. -/
def quoted (text : String) : String := String.ofList (quote text.toList)

end Gamebook.Text
