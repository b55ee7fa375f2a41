/-
  Narrative lines: text with coloured spans.

  A line is kept character by character, with two exceptions. A doubled opening brace stands for
  one brace, and a colour tag in braces opens a span, which the same tag with a slash closes. A
  brace that begins neither is text. Spans neither nest nor run on into the next line. A line
  whose first character other than a blank is an escaped directive mark loses the escape.
-/
import Gamebook.Markup.Grammar
import Gamebook.Markup.Name
import Gamebook.Markup.Problem
import Gamebook.Story
import Gamebook.Text.Blank

namespace Gamebook.Markup

open Gamebook.Text

/-! ## Pieces of a line -/

/-- A colour tag in braces. -/
structure Marker where
  closing : Bool
  tag : List Char
  column : Nat
deriving DecidableEq

/-- The marker as it is written. -/
def Marker.text (marker : Marker) : List Char :=
  '{' :: (if marker.closing then '/' :: marker.tag else marker.tag) ++ ['}']

/-- The flaw that shows at a marker. -/
def Marker.flaw (marker : Marker) (problem : Problem) : Flaw :=
  Flaw.at marker.column marker.text problem

/-- One character of the text, or a marker. -/
inductive Piece where
  | char (c : Char)
  | marker (marker : Marker)
deriving DecidableEq

/-- The word that a text begins with, if a closing brace follows it. -/
def tagBeforeBrace? (text : List Char) : Option (List Char) :=
  let tag := leadingWord text
  if tag.isEmpty then none
  else match text.drop tag.length with
    | '}' :: _ => some tag
    | _ => none

/-- The marker in column `column` whose opening brace stands directly before the text. -/
def markerAfterBrace? (column : Nat) : List Char → Option Marker
  | '/' :: text => (tagBeforeBrace? text).map (⟨true, ·, column⟩)
  | text => (tagBeforeBrace? text).map (⟨false, ·, column⟩)

/-- Divides what is left of a line: `skip` characters belong to a piece already taken, and the next
    character stands in column `column`. -/
def piecesFrom : (column skip : Nat) → List Char → List Piece
  | _, _, [] => []
  | column, skip + 1, _ :: rest => piecesFrom (column + 1) skip rest
  | column, 0, c :: rest =>
    if c = '{' then
      if rest.head? = some '{' then .char '{' :: piecesFrom (column + 1) 1 rest
      else match markerAfterBrace? column rest with
        | some marker =>
          .marker marker :: piecesFrom (column + 1) (marker.text.length - 1) rest
        | none => .char c :: piecesFrom (column + 1) 0 rest
    else .char c :: piecesFrom (column + 1) 0 rest

/-- The texts that end in a marker, each with its marker, and the text after the last marker. -/
def segments : List Piece → List (List Char × Marker) × List Char
  | [] => ([], [])
  | .marker marker :: rest => (([], marker) :: (segments rest).1, (segments rest).2)
  | .char c :: rest =>
    match segments rest with
    | ([], tail) => ([], c :: tail)
    | ((text, marker) :: more, tail) => ((c :: text, marker) :: more, tail)

/-! ## Runs -/

/-- A run within a line. -/
def innerRun (text : List Char) (color : Option (List Char)) : TextRun :=
  { content := String.ofList text, color := color.map String.ofList, endsLine := false }

/-- The runs of the segments of a line, while the span that `opened` began is open. -/
def spanRuns (grammar : Grammar) :
    (opened : Option Marker) → List (List Char × Marker) → (tail : List Char) →
      Except Flaw (List TextRun)
  | some opener, [], _ =>
    .error (opener.flaw (.unterminatedColor (String.ofList opener.tag)))
  | none, [], tail => .ok (if tail.isEmpty then [] else [innerRun tail none])
  | opened, (text, marker) :: rest, tail =>
    if !grammar.colors.contains (String.ofList marker.tag) then
      .error (marker.flaw (.unknownColor (String.ofList marker.tag)))
    else match opened, marker.closing with
      | none, true => .error (marker.flaw (.closingWithoutOpening (String.ofList marker.tag)))
      | some opener, true =>
        if marker.tag = opener.tag then
          (spanRuns grammar none rest tail).map (innerRun text (some opener.tag) :: ·)
        else
          .error (marker.flaw
            (.mismatchedColor (String.ofList opener.tag) (String.ofList marker.tag)))
      | some _, false => .error (marker.flaw .nestedColor)
      | none, false =>
        (spanRuns grammar (some marker) rest tail).map fun runs =>
          if text.isEmpty then runs else innerRun text none :: runs

/-- Makes the last run end its line; a line without runs gets an empty one. -/
def endLine : List TextRun → List TextRun
  | [] => [{ content := "" }]
  | [run] => [{ run with endsLine := true }]
  | run :: next :: rest => run :: endLine (next :: rest)

/-! ## A whole line -/

/-- The escape that makes a line with a directive mark narrative stands first in it. -/
def isEscaped (line : List Char) : Bool := [escapeMark, directiveMark].isPrefixOf (trimLeft line)

/-- The line without its escape. -/
def unescape (line : List Char) : List Char :=
  if isEscaped line then line.takeWhile isBlank ++ (trimLeft line).drop 1 else line

/-- The runs of a narrative line. Columns count the characters of the line as it was written. -/
def readNarrative (grammar : Grammar) (line : List Char) : Except Flaw (List TextRun) :=
  let column := if isEscaped line then 2 else 1
  let (texts, tail) := segments (piecesFrom column 0 (unescape line))
  (spanRuns grammar none texts tail).map endLine

end Gamebook.Markup
