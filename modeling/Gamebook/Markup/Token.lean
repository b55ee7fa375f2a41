/-
  The tokens of a condition.

  A condition is divided from left to right; at each place the longest symbol of the first
  matching kind is taken, and blanks between symbols are dropped. The words `and`, `or`, `not`,
  `true` and `false` count in any mixture of capitals and small letters; a flag or a counter is
  one token together with its name, and a sign directly before digits belongs to the number.
-/
import Gamebook.Markup.Name
import Gamebook.Markup.Problem
import Gamebook.Text.Blank
import Gamebook.Text.Numeral

namespace Gamebook.Markup

open Gamebook.Text

/-! ## Symbols -/

/-- A comparison as it is written. -/
inductive Relation where
  | less
  | atMost
  | equal
  | unequal
  | atLeast
  | greater
deriving DecidableEq

/-- What a token stands for. -/
inductive Symbol where
  | openParen
  | closeParen
  | relation (relation : Relation)
  | and
  | or
  | not
  | flag (name : String)
  | counter (name : String)
  | integer (value : Int)
  | truth (value : Bool)
deriving DecidableEq

/-- A symbol with its text and its column. -/
structure Token where
  symbol : Symbol
  text : String
  column : Nat
deriving DecidableEq

/-! ## The head of a text -/

/-- What a text begins with: a symbol, or a word that is none, and how many characters it takes. -/
structure Lexeme where
  symbol : Option Symbol
  length : Nat
deriving DecidableEq

/-- Parentheses, comparisons, and the connectives that are written with marks. -/
def leadingMark? : List Char → Option (Symbol × Nat)
  | '(' :: _ => some (.openParen, 1)
  | ')' :: _ => some (.closeParen, 1)
  | '<' :: '=' :: _ => some (.relation .atMost, 2)
  | '>' :: '=' :: _ => some (.relation .atLeast, 2)
  | '=' :: '=' :: _ => some (.relation .equal, 2)
  | '!' :: '=' :: _ => some (.relation .unequal, 2)
  | '<' :: _ => some (.relation .less, 1)
  | '>' :: _ => some (.relation .greater, 1)
  | '&' :: '&' :: _ => some (.and, 2)
  | '|' :: '|' :: _ => some (.or, 2)
  | '!' :: _ => some (.not, 1)
  | _ => none

/-- The name after `mark`, as the symbol that `symbol` makes of it. -/
def leadingReference? (mark : List Char) (symbol : String → Symbol) (text : List Char) :
    Option (Symbol × Nat) :=
  match afterPrefix? mark text with
  | none => none
  | some rest =>
    let name := leadingName rest
    if name.isEmpty then none
    else some (symbol (String.ofList name), mark.length + name.length)

/-- The longest number, with its sign, that a text begins with, or nothing. -/
def leadingNumber : List Char → List Char
  | [] => []
  | c :: rest =>
    if c = '+' || c = '-' then
      let digits := rest.takeWhile isDecimal
      if digits.isEmpty then [] else c :: digits
    else (c :: rest).takeWhile isDecimal

/-- The number that a text begins with. -/
def leadingInteger? (text : List Char) : Option (Symbol × Nat) :=
  let number := leadingNumber text
  (readInteger? number).map fun value => (.integer value, number.length)

/-- The symbol that a word stands for, capitals and small letters counting alike. -/
def wordSymbol? (word : List Char) : Option Symbol :=
  let small := String.ofList (word.map Char.toLower)
  if small = "and" then some .and
  else if small = "or" then some .or
  else if small = "not" then some .not
  else if small = "true" then some (.truth true)
  else if small = "false" then some (.truth false)
  else none

/-- What a text begins with, if it is anything that a condition admits, or a word. -/
def lexeme? (text : List Char) : Option Lexeme :=
  let symbol := leadingMark? text
    <|> leadingReference? "flag:".toList .flag text
    <|> leadingReference? "counter:".toList .counter text
    <|> leadingInteger? text
  match symbol with
  | some (symbol, length) => some ⟨some symbol, length⟩
  | none =>
    let word := leadingWord text
    if word.isEmpty then none else some ⟨wordSymbol? word, word.length⟩

/-! ## A whole condition -/

/-- Divides what is left of the condition `whole`: `skip` characters belong to a token already
    taken, and the next character stands in column `column`. -/
def Token.scanFrom (whole : List Char) :
    (column skip : Nat) → List Char → Except Flaw (List Token)
  | _, _, [] => .ok []
  | column, skip + 1, _ :: rest => scanFrom whole (column + 1) skip rest
  | column, 0, c :: rest =>
    if isBlank c then scanFrom whole (column + 1) 0 rest
    else match lexeme? (c :: rest) with
      | none => .error (Flaw.at column whole (.unexpectedCharacter c))
      | some ⟨none, length⟩ =>
        let word := (c :: rest).take length
        .error (Flaw.at column word (.unexpectedWord (String.ofList word)))
      | some ⟨some symbol, length⟩ =>
        let token := ⟨symbol, String.ofList ((c :: rest).take length), column⟩
        (scanFrom whole (column + 1) (length - 1) rest).map (token :: ·)

/-- The tokens of a condition that begins in column `column`. -/
def Token.scan (column : Nat) (text : List Char) : Except Flaw (List Token) :=
  scanFrom text column 0 text

end Gamebook.Markup
