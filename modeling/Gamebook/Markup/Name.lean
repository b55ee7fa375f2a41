/-
  Names in story files: of blocks, flags and counters; of story files; of colours and words.

  All of them are made of the letters and digits of ASCII and a few marks, so no other letter is
  admitted here.
-/

namespace Gamebook.Markup

/-! ## Characters -/

/-- A letter or a digit of ASCII, or an underscore. -/
def isWordChar (c : Char) : Bool := c.isAlphanum || c == '_'

/-- A letter of ASCII or an underscore. -/
def isWordStart (c : Char) : Bool := c.isAlpha || c == '_'

/-- A character of a name, the first one excepted. -/
def isNameChar (c : Char) : Bool := isWordChar c || c == '.' || c == '-'

/-- A character of a file's name, the first one excepted. -/
def isFileChar (c : Char) : Bool := isNameChar c || c == '/'

/-! ## Whole texts -/

/-- The name of a block, a flag or a counter. -/
def isName : List Char → Bool
  | [] => false
  | c :: rest => isWordChar c && rest.all isNameChar

/-- The name of a story file. It may begin with a dot and go through directories. -/
def isFileName : List Char → Bool
  | [] => false
  | c :: rest => (isWordChar c || c == '.') && rest.all isFileChar

/-! ## The head of a text -/

/-- The longest name that a text begins with, or nothing. -/
def leadingName : List Char → List Char
  | [] => []
  | c :: rest => if isWordChar c then c :: rest.takeWhile isNameChar else []

/-- The longest word that a text begins with, or nothing. -/
def leadingWord : List Char → List Char
  | [] => []
  | c :: rest => if isWordStart c then c :: rest.takeWhile isWordChar else []

end Gamebook.Markup
