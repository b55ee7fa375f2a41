/-
  The notation of the settings file: values, lists of values, and records with named fields.

  A text is one value, with blanks around it. Beside the usual numbers the words `NaN`,
  `Infinity` and `-Infinity` are numbers. What a number is worth does not matter here. In a
  string a control character has to be escaped, and half of a surrogate pair reads as the
  replacement character.

  The reader descends into lists and records; `fuel` counts the calls that are still allowed below
  the present one, and `Value.read?` starts with more than the text can use up.
-/
import Gamebook.Text.Search

namespace Gamebook.Settings

open Gamebook.Text (afterPrefix?)

/-- A value of the settings file. -/
inductive Value where
  | null
  | truth (value : Bool)
  | number
  | string (text : String)
  | list (items : List Value)
  | record (fields : List (String × Value))

/-! ## Blanks and numbers -/

/-- The character may stand between the parts of a value. -/
def isGap (c : Char) : Bool := c == ' ' || c == '\t' || c == '\n' || c == '\r'

/-- The text without the blanks in front. -/
def skipGap (text : List Char) : List Char := text.dropWhile isGap

/-- What follows the digits in front of a text, if there is at least one. -/
def afterDigits? (text : List Char) : Option (List Char) :=
  if (text.takeWhile Char.isDigit).isEmpty then none else some (text.dropWhile Char.isDigit)

/-- What follows the whole part of a number: a zero, or digits that do not begin with one. -/
def afterWhole? : List Char → Option (List Char)
  | '0' :: rest => some rest
  | text => afterDigits? text

/-- What follows the fraction of a number, if one begins here. -/
def afterFraction (text : List Char) : List Char :=
  match text with
  | '.' :: rest => (afterDigits? rest).getD text
  | _ => text

/-- What follows the exponent of a number, if one begins here. -/
def afterExponent (text : List Char) : List Char :=
  match text with
  | c :: rest =>
    if c = 'e' || c = 'E' then
      let digits := match rest with
        | sign :: more => if sign = '+' || sign = '-' then more else rest
        | [] => []
      (afterDigits? digits).getD text
    else text
  | [] => text

/-- What follows the number that a text begins with. -/
def afterNumber? (text : List Char) : Option (List Char) :=
  let whole := match text with
    | '-' :: rest => rest
    | _ => text
  (afterWhole? whole).map fun rest => afterExponent (afterFraction rest)

/-! ## Strings -/

/-- The worth of a hexadecimal digit. -/
def hexValue? (c : Char) : Option Nat :=
  if c.isDigit then some (c.toNat - '0'.toNat)
  else if 'a' ≤ c ∧ c ≤ 'f' then some (c.toNat - 'a'.toNat + 10)
  else if 'A' ≤ c ∧ c ≤ 'F' then some (c.toNat - 'A'.toNat + 10)
  else none

/-- The unit that four hexadecimal digits in front of a text spell. -/
def unit? : List Char → Option Nat
  | a :: b :: c :: d :: _ => do
    let a ← hexValue? a
    let b ← hexValue? b
    let c ← hexValue? c
    let d ← hexValue? d
    some (((a * 16 + b) * 16 + c) * 16 + d)
  | _ => none

/-- The first half of a surrogate pair. -/
def isHighHalf (unit : Nat) : Bool := 0xD800 ≤ unit && unit ≤ 0xDBFF

/-- The second half of a surrogate pair. -/
def isLowHalf (unit : Nat) : Bool := 0xDC00 ≤ unit && unit ≤ 0xDFFF

/-- The character that stands for half of a pair. -/
def replacement : Char := '\ufffd'

/-- The character of a unit by itself. -/
def unitChar (unit : Nat) : Char :=
  if isHighHalf unit || isLowHalf unit then replacement else Char.ofNat unit

/-- The character of an escape with four hexadecimal digits, and how many characters of the text
    behind the `u` it takes; a pair takes the next escape too. -/
def unitEscape? (text : List Char) : Option (Char × Nat) := do
  let first ← unit? text
  match text.drop 4 with
  | '\\' :: 'u' :: more =>
    match unit? more with
    | some second =>
      if isHighHalf first && isLowHalf second then
        some (Char.ofNat (0x10000 + (first - 0xD800) * 0x400 + (second - 0xDC00)), 10)
      else some (unitChar first, 4)
    | none => some (unitChar first, 4)
  | _ => some (unitChar first, 4)

/-- The character of an escape with one letter. -/
def letterEscape? (c : Char) : Option Char :=
  [('"', '"'), ('\\', '\\'), ('/', '/'), ('b', '\x08'), ('f', '\x0c'), ('n', '\n'), ('r', '\r'),
   ('t', '\t')].lookup c

/-- Reads a string up to its closing quote: its characters and what follows the quote. `skip`
    characters belong to an escape already taken. -/
def readString? : (skip : Nat) → List Char → Option (List Char × List Char)
  | _, [] => none
  | skip + 1, _ :: rest => readString? skip rest
  | 0, '"' :: rest => some ([], rest)
  | 0, '\\' :: 'u' :: rest => do
    let (c, length) ← unitEscape? rest
    let (text, after) ← readString? (length + 1) ('u' :: rest)
    some (c :: text, after)
  | 0, '\\' :: letter :: rest => do
    let c ← letterEscape? letter
    let (text, after) ← readString? 1 (letter :: rest)
    some (c :: text, after)
  | 0, c :: rest =>
    if c = '\\' || c.toNat < 0x20 then none
    else do
      let (text, after) ← readString? 0 rest
      some (c :: text, after)

/-! ## Values -/

/-- The words that are values. -/
def wordValues : List (String × Value) :=
  [("null", .null), ("true", .truth true), ("false", .truth false), ("NaN", .number),
   ("Infinity", .number), ("-Infinity", .number)]

/-- The word or number that a text begins with, and what follows it. -/
def readPlain? (text : List Char) : Option (Value × List Char) :=
  match wordValues.findSome? fun entry =>
      (afterPrefix? entry.1.toList text).map (entry.2, ·) with
  | some found => some found
  | none => (afterNumber? text).map (Value.number, ·)

mutual

/-- Reads a value. -/
def readValue? : (fuel : Nat) → List Char → Option (Value × List Char)
  | 0, _ => none
  | _ + 1, '"' :: rest => do
    let (text, after) ← readString? 0 rest
    some (.string (String.ofList text), after)
  | fuel + 1, '[' :: rest =>
    match skipGap rest with
    | ']' :: after => some (.list [], after)
    | first => do
      let (items, after) ← readItems? fuel first
      some (.list items, after)
  | fuel + 1, '{' :: rest =>
    match skipGap rest with
    | '}' :: after => some (.record [], after)
    | first => do
      let (fields, after) ← readFields? fuel first
      some (.record fields, after)
  | _ + 1, text => readPlain? text

/-- Reads the items of a list, of which there is at least one more. -/
def readItems? : (fuel : Nat) → List Char → Option (List Value × List Char)
  | 0, _ => none
  | fuel + 1, text => do
    let (item, after) ← readValue? fuel text
    match skipGap after with
    | ']' :: after => some ([item], after)
    | ',' :: more => do
      let (items, after) ← readItems? fuel (skipGap more)
      some (item :: items, after)
    | _ => none

/-- Reads the fields of a record, of which there is at least one more. -/
def readFields? : (fuel : Nat) → List Char → Option (List (String × Value) × List Char)
  | 0, _ => none
  | fuel + 1, '"' :: text => do
    let (name, after) ← readString? 0 text
    match skipGap after with
    | ':' :: after => do
      let (value, after) ← readValue? fuel (skipGap after)
      let field := (String.ofList name, value)
      match skipGap after with
      | '}' :: after => some ([field], after)
      | ',' :: more => do
        let (fields, after) ← readFields? fuel (skipGap more)
        some (field :: fields, after)
      | _ => none
    | _ => none
  | _ + 1, _ => none

end

/-- Reads a text as one value. -/
def Value.read? (text : List Char) : Option Value :=
  match readValue? (2 * text.length + 2) (skipGap text) with
  | some (value, after) => if (skipGap after).isEmpty then some value else none
  | none => none

/-- The value of a field; of two fields of one name the later counts. -/
def Value.field? (name : String) : Value → Option Value
  | .record fields => fields.reverse.lookup name
  | _ => none

end Gamebook.Settings
