/-
  Finding a piece of text inside another, and dividing a text at a mark.

  `afterPrefix?` takes a mark away from the front of a text and `indexOf?` counts the characters
  before the first occurrence of one; `splitFirst` divides at the first occurrence of a character,
  `splitLast?` at the last occurrence of a mark, `splitWhere` at every character of a kind.
-/

namespace Gamebook.Text

/-- What follows `mark` in a text that begins with it. -/
def afterPrefix? : (mark text : List Char) → Option (List Char)
  | [], text => some text
  | _ :: _, [] => none
  | m :: mark, c :: text => if m = c then afterPrefix? mark text else none

/-- How many characters stand before the first occurrence of `needle`, if it occurs at all. -/
def indexOf? (needle : List Char) : List Char → Option Nat
  | [] => if needle.isEmpty then some 0 else none
  | c :: rest =>
    if needle.isPrefixOf (c :: rest) then some 0 else (indexOf? needle rest).map (· + 1)

/-- What stands before the first `mark` and what stands after it; with no `mark` in the text all of
    it stands before. -/
def splitFirst (mark : Char) (text : List Char) : List Char × List Char :=
  (text.takeWhile (· ≠ mark), (text.dropWhile (· ≠ mark)).drop 1)

/-- What stands before the last occurrence of `mark` and what stands after it. -/
def splitLast? (mark : List Char) : List Char → Option (List Char × List Char)
  | [] => none
  | c :: rest =>
    match splitLast? mark rest with
    | some (before, after) => some (c :: before, after)
    | none =>
      if mark.isPrefixOf (c :: rest) then some ([], (c :: rest).drop mark.length) else none

/-- The pieces between the characters that `cut` picks out: one more than there are such
    characters. -/
def splitWhere (cut : Char → Bool) (text : List Char) : List (List Char) :=
  let (piece, pieces) := text.foldr step ([], [])
  piece :: pieces
where
  /-- One character more in front of a first piece and the pieces after it. -/
  step (c : Char) (parts : List Char × List (List Char)) : List Char × List (List Char) :=
    if cut c then ([], parts.1 :: parts.2) else (c :: parts.1, parts.2)

end Gamebook.Text
