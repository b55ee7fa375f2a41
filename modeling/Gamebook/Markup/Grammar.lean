/-
  The words of story markup: directive keywords, colour tags, and the mark of a comment.

  A `Grammar` says which keywords and colours a reader of story files recognises. What a keyword
  does is fixed; a keyword that a grammar admits but `Keyword` does not know is refused where it
  is used.
-/

namespace Gamebook.Markup

/-! ## Keywords -/

/-- The state directives. -/
inductive Verb where
  | set
  | clear
  | incr
  | decr
deriving DecidableEq

/-- The spelling of a state directive. -/
def Verb.text : Verb → String
  | set => "set"
  | clear => "clear"
  | incr => "incr"
  | decr => "decr"

/-- The directives. -/
inductive Keyword where
  | entry
  | block
  | endBlock
  | openIf
  | elseBranch
  | closeIf
  | option
  | jump
  | verb (verb : Verb)
deriving DecidableEq

namespace Keyword

/-- The spelling of a directive, without the mark in front. -/
def text : Keyword → String
  | entry => "entry"
  | block => "block"
  | endBlock => "end"
  | openIf => "if"
  | elseBranch => "else"
  | closeIf => "endif"
  | option => "option"
  | jump => "jump"
  | .verb v => v.text

/-- Every directive. -/
def all : List Keyword :=
  [entry, block, endBlock, openIf, elseBranch, closeIf, verb .set, verb .clear, verb .incr,
   verb .decr, option, jump]

/-- The directive of a spelling. -/
def ofText? (spelling : String) : Option Keyword := all.find? (·.text = spelling)

end Keyword

/-! ## Grammars -/

/-- What a reader of story files recognises. -/
structure Grammar where
  colors : List String := ["red", "green", "yellow", "blue", "cyan", "purple", "white"]
  keywords : List String := Keyword.all.map Keyword.text
  /-- A line outside of the blocks is a comment when it begins so. -/
  commentPrefix : String := "#"
deriving Inhabited

/-- The character that a directive begins with. -/
def directiveMark : Char := '@'

/-- The character that, in front of a `directiveMark`, makes a line narrative. -/
def escapeMark : Char := '\\'

end Gamebook.Markup
