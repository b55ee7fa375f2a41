/-
  What a single line says.

  A line whose first character other than a blank is the directive mark is a directive: a keyword,
  and after blanks its arguments. Outside of the blocks only headings are admitted (`Heading`),
  beside blank lines and comments; inside a block every line is a `Statement`. Whether a
  statement may stand where it stands is decided later.
-/
import Gamebook.Markup.ChangeText
import Gamebook.Markup.ConditionText
import Gamebook.Markup.DestinationText
import Gamebook.Markup.Narrative
import Gamebook.Markup.OptionText

namespace Gamebook.Markup

open Gamebook.Text

/-! ## Directives -/

/-- A directive line, divided. -/
structure Directive where
  column : Nat
  keyword : List Char
  argumentColumn : Nat
  arguments : List Char
deriving DecidableEq

/-- Divides a directive line; no other line is one. -/
def Directive.ofLine? (line : List Char) : Option Directive :=
  match trim line with
  | [] => none
  | mark :: body =>
    if mark = directiveMark then
      let keyword := body.takeWhile (!isBlank ·)
      let rest := body.dropWhile (!isBlank ·)
      let column := indentation line + 1
      some
        { column
          keyword
          argumentColumn := column + 1 + keyword.length + indentation rest
          arguments := trimLeft rest }
    else none

/-- The mark and the keyword. -/
def Directive.spelling (directive : Directive) : List Char := directiveMark :: directive.keyword

/-- The flaw that shows at the keyword of a directive. -/
def Directive.flaw (directive : Directive) (problem : Problem) : Flaw :=
  Flaw.at directive.column directive.spelling problem

/-- The flaw that shows at the keyword and is found in the arguments. -/
def Directive.argumentFlaw (directive : Directive) (problem : Problem) : Flaw :=
  Flaw.at directive.argumentColumn directive.spelling problem

/-- The keyword as the grammar admits it. Of an admitted spelling that no directive has, `none` is
    left. -/
def Directive.keyword? (grammar : Grammar) (directive : Directive) :
    Except Flaw (Option Keyword) :=
  let spelling := String.ofList directive.keyword
  if grammar.keywords.contains spelling then .ok (Keyword.ofText? spelling)
  else .error (directive.flaw (.unknownKeyword spelling))

/-! ## Outside of the blocks -/

/-- A line that opens a block or names the entry block, with the directive that it was read from. -/
inductive Heading where
  | block (name : String) (directive : Directive)
  | entry (name : String) (directive : Directive)
deriving DecidableEq

/-- A line outside of the blocks says nothing: it is blank or a comment. -/
def isIdle (grammar : Grammar) (line : List Char) : Bool :=
  let text := trim line
  text.isEmpty || grammar.commentPrefix.toList.isPrefixOf text

/-- Reads a line outside of the blocks. -/
def Heading.read (grammar : Grammar) (line : List Char) : Except Flaw (Option Heading) :=
  if isIdle grammar line then .ok none
  else match Directive.ofLine? line with
    | none => .error (Flaw.at (indentation line + 1) (trim line) .narrativeOutsideBlock)
    | some directive => do
      let name := String.ofList directive.arguments
      match ← directive.keyword? grammar with
      | some .block =>
        if isName directive.arguments then .ok (some (.block name directive))
        else .error (directive.argumentFlaw (.invalidBlockName name))
      | some .entry =>
        if isName directive.arguments then .ok (some (.entry name directive))
        else .error (directive.argumentFlaw (.invalidEntryName name))
      | _ => .error (directive.flaw (.outsideBlock (String.ofList directive.keyword)))

/-! ## Inside a block -/

/-- What a line inside a block says. -/
inductive Statement where
  | narrative (runs : List TextRun)
  | option (choice : Choice)
  | change (change : StateChange)
  | jump (destination : Destination)
  | openIf (condition : Condition)
  | elseBranch
  | closeIf
  | endBlock
  /-- A heading, which has no place inside a block. -/
  | block
  | entry

/-- The statement, if the directive has no arguments. -/
def Directive.bare (directive : Directive) (statement : Statement) : Except Flaw Statement :=
  if directive.arguments.isEmpty then .ok statement
  else .error (Flaw.at directive.argumentColumn directive.arguments
    (.unexpectedArguments (String.ofList directive.keyword)))

/-- Reads the arguments of a directive inside a block. -/
def Directive.statement (directive : Directive) : Keyword → Except Flaw Statement
  | .block => .ok .block
  | .entry => .ok .entry
  | .endBlock => directive.bare .endBlock
  | .elseBranch => directive.bare .elseBranch
  | .closeIf => directive.bare .closeIf
  | .openIf => (readCondition directive.argumentColumn directive.arguments).map .openIf
  | .option => (readOption directive.argumentColumn directive.arguments).map .option
  | .jump => (readDestination directive.argumentColumn directive.arguments).map .jump
  | .verb verb => (readChange verb directive.argumentColumn directive.arguments).map .change

/-- Reads a line inside a block. -/
def Statement.read (grammar : Grammar) (line : List Char) : Except Flaw Statement :=
  match Directive.ofLine? line with
  | none => (readNarrative grammar line).map .narrative
  | some directive => do
    match ← directive.keyword? grammar with
    | some keyword => directive.statement keyword
    | none => .error (directive.flaw (.unsupportedKeyword (String.ofList directive.keyword)))

end Gamebook.Markup
