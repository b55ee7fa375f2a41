/-
  Options as they are written: a label, perhaps keywords in brackets, an arrow, a destination, and
  perhaps a condition after the word `if`.

  The last arrow of the line counts, so a label may hold arrows. Brackets hold keywords only when
  they end the label. Flaws are looked for from left to right: keywords, label, destination,
  condition.
-/
import Gamebook.Markup.ConditionText
import Gamebook.Markup.DestinationText
import Gamebook.Markup.Grammar
import Gamebook.Text.Search
import Gamebook.WordList

namespace Gamebook.Markup

open Gamebook.Text

/-! ## Keywords -/

/-- Reads the parts of a keyword list whose whole text is `list`; the first part begins in column
    `column`. -/
def readKeywords (list : List Char) : (column : Nat) → List (List Char) →
    Except Flaw (List String)
  | _, [] => .ok []
  | column, part :: rest =>
    let word := trim part
    let wordColumn := column + indentation part
    if word.isEmpty then .error (Flaw.at wordColumn list .emptyKeyword)
    else if word.head? = some directiveMark && !WordList.isName (String.ofList (word.drop 1)) then
      .error (Flaw.at wordColumn word (.unknownWordList (String.ofList word)))
    else (readKeywords list (column + part.length + 1) rest).map (String.ofList word :: ·)

/-- Divides what stands before the arrow into the label and its keywords. -/
def readLabel (column : Nat) (text : List Char) : Except Flaw (List Char × List String) :=
  let text := trimRight text
  match text.getLast?, splitLast? ['['] text with
  | some ']', some (label, list) =>
    let list := list.dropLast
    (readKeywords list (column + label.length + 1) (splitWhere (· = ',') list)).map (label, ·)
  | _, _ => .ok (text, [])

/-! ## Guards -/

/-- Where `piece` first occurs in a text that holds it. -/
def offsetOf (piece text : List Char) : Nat := (indexOf? piece text).getD 0

/-- Reads what follows a destination. `target` is the text from the destination on, which begins in
    column `column`, and `rest` the part of it behind the first space. -/
def readGuard (column : Nat) (target rest : List Char) : Except Flaw (Option Condition) :=
  let guardText := trim rest
  if guardText.isEmpty then .ok none
  else
    let guardColumn := column + offsetOf guardText target
    let (keyword, rest) := splitFirst ' ' guardText
    let condition := trim rest
    if keyword ≠ "if".toList || condition.isEmpty then
      .error (Flaw.at guardColumn guardText .conditionKeywordExpected)
    else
      (readCondition (guardColumn + offsetOf condition guardText) condition).map some

/-! ## A whole option -/

/-- Reads the trimmed arguments of an option, which begin in column `column`. -/
def readOption (column : Nat) (arguments : List Char) : Except Flaw Choice :=
  match splitLast? "->".toList arguments with
  | none => .error (Flaw.at column arguments .missingArrow)
  | some (before, after) => do
    let (label, keywords) ← readLabel column before
    let label := trim label
    if label.isEmpty then .error (Flaw.at column arguments .emptyLabel)
    else
      let target := trimLeft after
      let targetColumn := column + (arguments.length - target.length)
      let (token, rest) := splitFirst ' ' target
      let destination ← readDestination targetColumn token
      let guard ← readGuard targetColumn target rest
      .ok { label := String.ofList label, destination, guard, keywords }

end Gamebook.Markup
