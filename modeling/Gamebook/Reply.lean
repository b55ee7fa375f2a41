/-
  What a reader types.

  A reply is cleaned before it is compared with anything: letters, digits and spaces are kept,
  runs of spaces become one, capitals become small. A reply to a menu is tried as a label, then
  as a number of the menu, then as a keyword, then as the name of the block that an option leads
  to.
-/
import Gamebook.Story
import Gamebook.Text.Blank
import Gamebook.Text.Letter
import Gamebook.Text.Lowercase
import Gamebook.WordList

namespace Gamebook.Reply

open Gamebook.Text

/-! ## Cleaning -/

/-- The character is kept when a reply is cleaned. -/
def isKept (c : Char) : Bool := isAlphanumeric c || c == ' '

/-- Cleans the characters of a reply. -/
def clean (text : List Char) : List Char :=
  lower (List.intercalate [' '] (words (text.filter isKept)))

/-- Cleans a reply. -/
def sanitize (reply : String) : String := String.ofList (clean reply.toList)

/-! ## Words with a meaning -/

/-- The reply leaves the story. -/
def isExit (reply : String) : Bool := WordList.exits.contains (sanitize reply)

/-- The answer that a reply gives. -/
def answer? (reply : String) : Option Answer :=
  let cleaned := sanitize reply
  if WordList.affirmatives.contains cleaned then some .yes
  else if WordList.negatives.contains cleaned then some .no
  else if WordList.unsuratives.contains cleaned then some .unsure
  else none

/-- The direction that a reply gives. -/
def direction? (reply : String) : Option Direction :=
  let cleaned := sanitize reply
  WordList.directions.find? fun direction =>
    (WordList.directionWords direction).contains cleaned

/-! ## Options -/

/-- A cleaned reply occurs in a keyword, or is one of the words of the list that the keyword
    names. -/
def matchesKeyword (cleaned keyword : String) : Bool :=
  match keyword.toList with
  | '@' :: name => (WordList.words (String.ofList name)).contains cleaned
  | _ => (indexOf? cleaned.toList (sanitize keyword).toList).isSome

/-- The name of the block that an option leads to, cleaned. -/
def blockName? (choice : Choice) : Option String :=
  match choice.destination with
  | .block name => some (sanitize name)
  | .file _ (some name) => if name.isEmpty then none else some (sanitize name)
  | .file _ none | .unknown _ => none

/-- The place in a menu that a cleaned reply gives as a number, the first place being 1. A reply of
    digits that are not all decimal is a fault. -/
def menuNumber? (cleaned : String) (count : Nat) : Except Fault (Option Nat) :=
  if cleaned.toList.all isDigitLike then
    match readNatural? cleaned.toList with
    | none => .error (.notDecimal cleaned)
    | some number =>
      .ok (if 1 ≤ number && number ≤ count then some (number - 1) else none)
  else .ok none

/-- The index of the option that a reply picks. -/
def matchOption (reply : String) (choices : List Choice) : Except Fault (Option Nat) :=
  let cleaned := sanitize reply
  if cleaned.isEmpty then .ok none
  else match choices.findIdx? fun choice => sanitize choice.label == cleaned with
    | some index => .ok (some index)
    | none =>
      match menuNumber? cleaned choices.length with
      | .error fault => .error fault
      | .ok (some index) => .ok (some index)
      | .ok none =>
        .ok ((choices.findIdx? fun choice => choice.keywords.any (matchesKeyword cleaned)).or
          (choices.findIdx? fun choice => blockName? choice == some cleaned))

/-! ## Questions -/

/-- What is said to a reply that means nothing. -/
def unrecognised : String := "I didn't understand that."

/-- The colour of a question. -/
def questionColor : String := "cyan"

/-- How a question ended. -/
inductive Ending (α : Type) where
  | answered (answer : α)
  /-- The reader left. -/
  | left
  /-- There were no more replies. -/
  | noReply
deriving DecidableEq

/-- A question that was asked: how it ended, what was written, and the replies not read. -/
structure Asked (α : Type) where
  ending : Ending α
  written : List (String × Option String)
  unread : List String

/-- The same with something written before. -/
def Asked.after {α : Type} (before : List (String × Option String)) (asked : Asked α) : Asked α :=
  { asked with written := before ++ asked.written }

/-- Asks a question until a reply gives an answer or leaves. -/
def ask {α : Type} (meaning? : String → Option α) (question : String) :
    (replies : List String) → Asked α
  | [] => { ending := .noReply, written := [(question, some questionColor)], unread := [] }
  | reply :: rest =>
    let put := [(question, some questionColor)]
    if isExit reply then { ending := .left, written := put, unread := rest }
    else if (sanitize reply).isEmpty then (ask meaning? question rest).after put
    else match meaning? reply with
      | some answer => { ending := .answered answer, written := put, unread := rest }
      | none => (ask meaning? question rest).after (put ++ [(unrecognised, none)])

end Gamebook.Reply
