/-
  The arguments of the command line.

  Long options may be cut short to any beginning that only one of them has, and take their value
  after an equals sign or from the next argument. Short options take no value and may be written
  together, with an equals sign after the first one or without. An argument that begins with a dash
  is no value, except for a lone dash, a negative number, and one that has a space in it and is no
  option. After two dashes everything is a plain argument, and plain arguments are refused; two
  dashes in the place of a value are taken away, and leave the option with nothing.

  Arguments are first sorted, all of them, and then obeyed one after the other: an ambiguous
  option is refused before anything else, and help is given as soon as it is asked for. Short
  options that are written together are obeyed only when all of them are known.
-/
import Gamebook.Console
import Gamebook.Text.Search

namespace Gamebook

open Gamebook.Text

/-! ## Options -/

/-- An option of the command line. -/
inductive CommandOption where
  | help
  | stories
  | file
  | block
  | name
  | textMode
  | remember
  | verbose
deriving DecidableEq

namespace CommandOption

/-- Every spelling of every option. -/
def spellings : List (String × CommandOption) :=
  [("-h", help), ("--help", help), ("--stories", stories), ("--file", file), ("--block", block),
   ("--name", name), ("--text-mode", textMode), ("--remember", remember), ("-v", verbose),
   ("--verbose", verbose)]

/-- The option of a spelling. -/
def ofSpelling? (spelling : String) : Option CommandOption := spellings.lookup spelling

/-- The option wants a value. -/
def takesValue : CommandOption → Bool
  | stories | file | block | name | textMode => true
  | help | remember | verbose => false

end CommandOption

/-! ## Sorting -/

/-- Why the program stops at its arguments. -/
inductive ArgumentStop where
  /-- Help was asked for. -/
  | help
  /-- The arguments cannot be used. -/
  | misuse
deriving DecidableEq

/-- The exit code of such a stop. -/
def ArgumentStop.exitCode : ArgumentStop → Nat
  | help => 0
  | misuse => 2

/-- What an argument is. -/
inductive Argument where
  /-- A value, or an argument of no use. -/
  | plain (text : String)
  /-- Two dashes, or something behind them. -/
  | behindDashes
  | unknown
  /-- An option, with the text that is written onto it, after an equals sign or directly. -/
  | use (option : CommandOption) (long : Bool) (attached : Option (List Char))
deriving DecidableEq

/-- Decimal digits, one at least. -/
def isDigits (text : List Char) : Bool := !text.isEmpty && text.all isDecimal

/-- A dash followed by a number: digits, or a point with digits behind it and perhaps before it. -/
def isNegativeNumber : List Char → Bool
  | '-' :: number =>
    let (whole, fraction) := splitFirst '.' number
    isDigits number || (number.contains '.' && whole.all isDecimal && isDigits fraction)
  | _ => false

/-- The text without a line feed at its end. -/
def dropLineEnd (text : List Char) : List Char :=
  if text.getLast? = some '\n' then text.dropLast else text

/-- An argument that is no option, although it begins with a dash. -/
def Argument.ofOther (text : String) : Argument :=
  if isNegativeNumber (dropLineEnd text.toList) || text.toList.contains ' ' then .plain text
  else .unknown

/-- A short or a long option that is not spelled out. -/
def Argument.ofAbbreviation (text : String) : Except ArgumentStop Argument :=
  match text.toList with
  | '-' :: '-' :: _ =>
    let (beginning, value) := splitFirst '=' text.toList
    let attached := if text.toList.contains '=' then some value else none
    match CommandOption.spellings.filter (beginning.isPrefixOf ·.1.toList) with
    | [] => .ok (.ofOther text)
    | [(_, option)] => .ok (.use option true attached)
    | _ => .error .misuse
  | dash :: letter :: value =>
    match CommandOption.ofSpelling? (String.ofList [dash, letter]) with
    | some option => .ok (.use option false (some value))
    | none => .ok (.ofOther text)
  | _ => .ok (.ofOther text)

/-- Whether a spelling is a long one. -/
def isLong (spelling : String) : Bool := "--".toList.isPrefixOf spelling.toList

/-- Sorts an argument that stands before any two dashes. -/
def Argument.sort (text : String) : Except ArgumentStop Argument :=
  if !"-".toList.isPrefixOf text.toList then .ok (.plain text)
  else match CommandOption.ofSpelling? text with
    | some option => .ok (.use option (isLong text) none)
    | none =>
      if text = "-" then .ok (.plain text)
      else
        let (spelling, value) := splitFirst '=' text.toList
        match CommandOption.ofSpelling? (String.ofList spelling) with
        | some option =>
          .ok (.use option (isLong text)
            (if text.toList.contains '=' then some value else none))
        | none => ofAbbreviation text

/-- Sorts all arguments. -/
def Argument.sortAll : List String → Except ArgumentStop (List Argument)
  | [] => .ok []
  | text :: rest =>
    if text = "--" then .ok (List.replicate (rest.length + 1) .behindDashes)
    else do
      let argument ← sort text
      let others ← sortAll rest
      .ok (argument :: others)

/-! ## Obeying -/

/-- What an option is given. -/
inductive Given where
  | text (text : String)
  /-- The value was two dashes. -/
  | nothing
deriving DecidableEq, Inhabited

namespace Given

/-- What a value gives to an option. -/
def ofValue (value : String) : Given := if value = "--" then nothing else text value

/-- The text, if there is any. -/
def text? : Given → Option String
  | text content => some content
  | nothing => none

/-- What is given as it is shown; nothing shows as a pair of brackets. -/
def shown : Given → String
  | text content => content
  | nothing => "[]"

end Given

/-- What the arguments ask for. -/
structure Arguments where
  stories : Option Given := none
  file : Given := .text "example_1.txt"
  block : Option Given := none
  name : Given := .text "Interactive Fiction"
  textMode : Option TextMode := none
  remember : Bool := false
  verbose : Bool := false
deriving DecidableEq, Inhabited

/-- The options that letters stand for, each letter for one; a letter that stands for none is a
    misuse, and so is having no letter. -/
def shortOptions (letters : List Char) : Except ArgumentStop (List CommandOption) :=
  if letters.isEmpty then .error .misuse
  else letters.mapM fun letter =>
    match CommandOption.ofSpelling? (String.ofList ['-', letter]) with
    | some option => .ok option
    | none => .error .misuse

namespace Arguments

/-- Obeys an option without a value. -/
def obeySwitch (arguments : Arguments) : CommandOption → Except ArgumentStop Arguments
  | .help => .error .help
  | .remember => .ok { arguments with remember := true }
  | .verbose => .ok { arguments with verbose := true }
  | .stories | .file | .block | .name | .textMode => .error .misuse

/-- The mode of text that an option asks for. Without a value it leaves the mode to the settings. -/
def readTextMode : Given → Except ArgumentStop (Option TextMode)
  | .nothing => .ok none
  | .text name =>
    match TextMode.ofText? name with
    | some mode => .ok (some mode)
    | none => .error .misuse

/-- Obeys an option with what it is given. -/
def obeyValue (arguments : Arguments) (given : Given) :
    CommandOption → Except ArgumentStop Arguments
  | .stories => .ok { arguments with stories := some given }
  | .file => .ok { arguments with file := given }
  | .block => .ok { arguments with block := some given }
  | .name => .ok { arguments with name := given }
  | .textMode => (readTextMode given).map fun mode => { arguments with textMode := mode }
  | .help | .remember | .verbose => .error .misuse

/-- Obeys sorted arguments. `odd` tells that one of those before is of no use, which is a misuse in
    the end. -/
def obey (arguments : Arguments) (odd : Bool) : List Argument → Except ArgumentStop Arguments
  | [] => if odd then .error .misuse else .ok arguments
  | .plain _ :: others | .behindDashes :: others | .unknown :: others =>
    obey arguments true others
  | .use option long (some text) :: others =>
    if option.takesValue then do
      let next ← arguments.obeyValue (.ofValue (String.ofList text)) option
      next.obey odd others
    else if long then .error .misuse
    else do
      let more ← shortOptions text
      let next ← (option :: more).foldlM obeySwitch arguments
      next.obey odd others
  | .use option _ none :: others =>
    if option.takesValue then
      match others with
      | .plain value :: others => do
        let next ← arguments.obeyValue (.text value) option
        next.obey odd others
      | _ => .error .misuse
    else do
      let next ← arguments.obeySwitch option
      next.obey odd others

/-- Reads the arguments of the command line. -/
def read (texts : List String) : Except ArgumentStop Arguments := do
  let sorted ← Argument.sortAll texts
  obey {} false sorted

end Arguments
end Gamebook
