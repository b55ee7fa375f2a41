/-
  What can be wrong with a story file.

  A `Problem` is a cause, a `Flaw` a cause with its column and the piece of the line that shows
  it, a `ParseError` a flaw with its file and line. Columns count characters and the first one is
  1.
-/
import Gamebook.Text.Numeral

namespace Gamebook.Markup

/-- What a condition should have gone on with. -/
inductive Expectation where
  | condition
  | closing
  | comparison
  | truth
  | integer
deriving DecidableEq

/-- The wording of an expectation. -/
def Expectation.text : Expectation → String
  | condition => "a condition"
  | closing => "')'"
  | comparison => "a comparison"
  | truth => "'true' or 'false'"
  | integer => "an integer"

/-- Why a line, or a file, is no story markup. -/
inductive Problem where
  -- blocks
  | narrativeOutsideBlock
  | unknownKeyword (keyword : String)
  | unsupportedKeyword (keyword : String)
  | outsideBlock (keyword : String)
  | entryInsideBlock
  | blockInsideBlock (block : String)
  | invalidBlockName (name : String)
  | duplicateBlock (name : String)
  | invalidEntryName (name : String)
  | duplicateEntry
  | undefinedEntry (name : String)
  | unterminatedBlock (name : String)
  -- conditionals
  | unexpectedArguments (keyword : String)
  | endInsideConditional (line : Nat)
  | strayElse
  | duplicateElse
  | strayEndif
  | unterminatedConditional
  -- narrative
  | unknownColor (tag : String)
  | closingWithoutOpening (tag : String)
  | mismatchedColor (opened closed : String)
  | nestedColor
  | unterminatedColor (tag : String)
  -- state directives
  | missingTarget (keyword : String)
  | invalidTarget (target : String)
  | tooManyOperands (keyword : String)
  | clearWithValue
  | counterExpected (keyword : String)
  | flagExpected
  | invalidFlagValue (value : String)
  | invalidAmount (value : String)
  | missingCounterValue
  -- options and destinations
  | missingArrow
  | emptyLabel
  | emptyKeyword
  | unknownWordList (word : String)
  | conditionKeywordExpected
  | missingDestination
  | invalidDestination (token : String)
  | invalidDestinationFile (token : String)
  | invalidDestinationBlock (token : String)
  -- conditions
  | missingCondition
  | unexpectedCharacter (c : Char)
  | unexpectedWord (word : String)
  | unexpectedToken (token : String)
  | closingExpected (found : String)
  | referenceExpected (found : String)
  | flagComparison (found : String)
  | truthExpected (found : String)
  | comparisonExpected (reference found : String)
  | integerExpected (found : String)
  | conditionEndedEarly (expected : Expectation)
deriving DecidableEq

/-- The wording of a problem. -/
def Problem.message : Problem → String
  | narrativeOutsideBlock => "Narrative text outside of a block"
  | unknownKeyword keyword => "Unknown directive keyword '@" ++ keyword ++ "'"
  | unsupportedKeyword keyword => "Unsupported directive '@" ++ keyword ++ "'"
  | outsideBlock keyword => "'@" ++ keyword ++ "' is only allowed inside a block"
  | entryInsideBlock => "'@entry' is only allowed outside blocks"
  | blockInsideBlock block =>
    "Unterminated block '" ++ block ++ "': '@block' found before '@end'"
  | invalidBlockName name => "Invalid block name '" ++ name ++ "'"
  | duplicateBlock name => "Duplicate block name '" ++ name ++ "'"
  | invalidEntryName name => "Invalid entry block name '" ++ name ++ "'"
  | duplicateEntry => "Duplicate '@entry' declaration"
  | undefinedEntry name => "Entry block '" ++ name ++ "' is not defined"
  | unterminatedBlock name => "Unterminated block '" ++ name ++ "': missing '@end'"
  | unexpectedArguments keyword => "'@" ++ keyword ++ "' takes no arguments"
  | endInsideConditional line =>
    "Unterminated conditional opened on line " ++ Text.natural line
      ++ ": '@end' found before '@endif'"
  | strayElse => "'@else' without a matching '@if'"
  | duplicateElse => "Duplicate '@else' in one conditional"
  | strayEndif => "'@endif' without a matching '@if'"
  | unterminatedConditional => "Unterminated conditional: '@if' has no matching '@endif'"
  | unknownColor tag => "Unknown color tag '" ++ tag ++ "'"
  | closingWithoutOpening tag =>
    "Closing color tag '\x7b/" ++ tag ++ "\x7d' without an opening tag"
  | mismatchedColor opened closed =>
    "Mismatched color tag: expected '\x7b/" ++ opened ++ "\x7d', found '\x7b/" ++ closed ++ "\x7d'"
  | nestedColor => "Nested color tags are not supported"
  | unterminatedColor tag => "Unterminated color tag '\x7b" ++ tag ++ "\x7d'"
  | missingTarget keyword => "'@" ++ keyword ++ "' needs a target"
  | invalidTarget target =>
    "Invalid target '" ++ target ++ "': expected 'flag:NAME' or 'counter:NAME'"
  | tooManyOperands keyword => "Too many operands for '@" ++ keyword ++ "'"
  | clearWithValue => "'@clear' takes no value"
  | counterExpected keyword => "'@" ++ keyword ++ "' expects a counter target"
  | flagExpected => "'@clear' expects a flag target"
  | invalidFlagValue value => "Invalid flag value '" ++ value ++ "'"
  | invalidAmount value => "Invalid amount '" ++ value ++ "'"
  | missingCounterValue => "'@set counter:' needs a value"
  | missingArrow => "Option must look like 'label -> destination'"
  | emptyLabel => "Option label is empty"
  | emptyKeyword => "Empty option keyword"
  | unknownWordList word => "Unknown word list '" ++ word ++ "'"
  | conditionKeywordExpected => "Expected 'if <condition>' after the destination"
  | missingDestination => "Missing destination"
  | invalidDestination token => "Invalid destination '" ++ token ++ "'"
  | invalidDestinationFile token => "Invalid story file in destination '" ++ token ++ "'"
  | invalidDestinationBlock token => "Invalid block name in destination '" ++ token ++ "'"
  | missingCondition => "Missing condition"
  | unexpectedCharacter c => "Unexpected character '" ++ String.ofList [c] ++ "' in condition"
  | unexpectedWord word => "Unexpected word '" ++ word ++ "' in condition"
  | unexpectedToken token => "Unexpected '" ++ token ++ "' in condition"
  | closingExpected found => "Expected ')' but found '" ++ found ++ "'"
  | referenceExpected found =>
    "Expected 'flag:NAME' or 'counter:NAME' but found '" ++ found ++ "'"
  | flagComparison found => "Flags only support '==' and '!=', not '" ++ found ++ "'"
  | truthExpected found => "Expected 'true' or 'false' but found '" ++ found ++ "'"
  | comparisonExpected reference found =>
    "Expected a comparison after '" ++ reference ++ "' but found '" ++ found ++ "'"
  | integerExpected found => "Expected an integer but found '" ++ found ++ "'"
  | conditionEndedEarly expected => "Condition ended early: expected " ++ expected.text

/-- A problem of one line: the column it shows at, and the piece of the line that shows it. -/
structure Flaw where
  problem : Problem
  column : Nat
  construct : String
deriving DecidableEq

/-- The flaw whose evidence is a piece of the line. -/
def Flaw.at (column : Nat) (construct : List Char) (problem : Problem) : Flaw :=
  { problem, column, construct := String.ofList construct }

/-- The first flaw of a story file. -/
structure ParseError where
  fileId : String
  line : Nat
  flaw : Flaw
deriving DecidableEq

/-- The problem alone. -/
def ParseError.detail (error : ParseError) : String := error.flaw.problem.message

/-- The file, the line, the column and the problem. -/
def ParseError.message (error : ParseError) : String :=
  error.fileId ++ ":" ++ Text.natural error.line ++ ":" ++ Text.natural error.flaw.column ++ ": "
    ++ error.detail

end Gamebook.Markup
