/-
  Conditions as they are written.

  `not` binds most tightly, then `and`, then `or`; both `and` and `or` group to the left, and
  parentheses group as they stand. A flag by itself asks whether it is up. That a flag is not
  `b` reads as the flag being the opposite of `b`, and that a counter is not `k` as the negation
  of its being `k`.

  The reader descends through the three levels, one function for each. `fuel` counts the calls
  that are still allowed below the present one; `readCondition` starts with more than the tokens
  can use up.
-/
import Gamebook.Condition
import Gamebook.Markup.Token

namespace Gamebook.Markup

open Gamebook.Text

/-! ## Small pieces -/

/-- The condition that a counter has a relation to a number. -/
def Relation.condition (name : String) (value : Int) : Relation → Condition
  | less => .counter name .less value
  | atMost => .counter name .atMost value
  | equal => .counter name .equal value
  | unequal => .not (.counter name .equal value)
  | atLeast => .counter name .atLeast value
  | greater => .counter name .greater value

/-- The flaw that a token is not what should stand there. -/
def Token.flaw (token : Token) (problem : String → Problem) : Flaw :=
  { problem := problem token.text, column := token.column, construct := token.text }

/-- The flaw that a condition, which ends just before column `stop`, ends too early. -/
def endedEarly (stop : Nat) (expected : Expectation) : Flaw :=
  { problem := .conditionEndedEarly expected, column := stop, construct := "" }

/-- Takes the next token. -/
def nextToken (stop : Nat) (expected : Expectation) :
    List Token → Except Flaw (Token × List Token)
  | [] => .error (endedEarly stop expected)
  | token :: rest => .ok (token, rest)

/-- What may follow a flag: a comparison with a truth value, or nothing that belongs to it. -/
def readFlagTest (stop : Nat) (name : String) :
    List Token → Except Flaw (Condition × List Token)
  | ⟨.relation relation, text, column⟩ :: rest =>
    if relation = .equal || relation = .unequal then do
      let (token, rest) ← nextToken stop .truth rest
      match token.symbol with
      | .truth value => .ok (.flag name (if relation = .equal then value else !value), rest)
      | _ => .error (token.flaw .truthExpected)
    else .error (Token.flaw ⟨.relation relation, text, column⟩ .flagComparison)
  | tokens => .ok (.flag name true, tokens)

/-- What has to follow a counter: a comparison with a number. -/
def readCounterTest (stop : Nat) (name reference : String) (tokens : List Token) :
    Except Flaw (Condition × List Token) := do
  let (comparison, rest) ← nextToken stop .comparison tokens
  match comparison.symbol with
  | .relation relation => do
    let (number, rest) ← nextToken stop .integer rest
    match number.symbol with
    | .integer value => .ok (relation.condition name value, rest)
    | _ => .error (number.flaw .integerExpected)
  | _ => .error (comparison.flaw (.comparisonExpected reference))

/-! ## The three levels -/

mutual

/-- Conditions joined by `or`. -/
def readDisjunction (stop : Nat) :
    (fuel : Nat) → List Token → Except Flaw (Condition × List Token)
  | 0, _ => .error (endedEarly stop .condition)
  | fuel + 1, tokens => do
    let (left, rest) ← readConjunction stop fuel tokens
    readMoreDisjuncts stop fuel left rest

/-- Takes what is joined to `left` by `or`. -/
def readMoreDisjuncts (stop : Nat) :
    (fuel : Nat) → Condition → List Token → Except Flaw (Condition × List Token)
  | 0, _, _ => .error (endedEarly stop .condition)
  | fuel + 1, left, ⟨.or, _, _⟩ :: rest => do
    let (right, rest) ← readConjunction stop fuel rest
    readMoreDisjuncts stop fuel (.or left right) rest
  | _ + 1, left, tokens => .ok (left, tokens)

/-- Conditions joined by `and`. -/
def readConjunction (stop : Nat) :
    (fuel : Nat) → List Token → Except Flaw (Condition × List Token)
  | 0, _ => .error (endedEarly stop .condition)
  | fuel + 1, tokens => do
    let (left, rest) ← readNegation stop fuel tokens
    readMoreConjuncts stop fuel left rest

/-- Takes what is joined to `left` by `and`. -/
def readMoreConjuncts (stop : Nat) :
    (fuel : Nat) → Condition → List Token → Except Flaw (Condition × List Token)
  | 0, _, _ => .error (endedEarly stop .condition)
  | fuel + 1, left, ⟨.and, _, _⟩ :: rest => do
    let (right, rest) ← readNegation stop fuel rest
    readMoreConjuncts stop fuel (.and left right) rest
  | _ + 1, left, tokens => .ok (left, tokens)

/-- A single test, a condition in parentheses, or the negation of either. -/
def readNegation (stop : Nat) :
    (fuel : Nat) → List Token → Except Flaw (Condition × List Token)
  | 0, _ => .error (endedEarly stop .condition)
  | fuel + 1, ⟨.not, _, _⟩ :: rest => do
    let (operand, rest) ← readNegation stop fuel rest
    .ok (.not operand, rest)
  | fuel + 1, tokens => do
    let (token, rest) ← nextToken stop .condition tokens
    match token.symbol with
    | .openParen => do
      let (inner, rest) ← readDisjunction stop fuel rest
      let (closing, rest) ← nextToken stop .closing rest
      if closing.symbol = .closeParen then .ok (inner, rest)
      else .error (closing.flaw .closingExpected)
    | .flag name => readFlagTest stop name rest
    | .counter name => readCounterTest stop name token.text rest
    | _ => .error (token.flaw .referenceExpected)

end

/-! ## A whole condition -/

/-- Fuel that tokens cannot use up: at most three calls are made before a token is taken. -/
def fuelFor (tokens : List Token) : Nat := 4 * tokens.length + 4

/-- Reads tokens as one condition; the text they come from ends just before column `stop`. -/
def readTokens (stop : Nat) (tokens : List Token) : Except Flaw Condition := do
  let (condition, rest) ← readDisjunction stop (fuelFor tokens) tokens
  match rest with
  | [] => .ok condition
  | token :: _ => .error (token.flaw .unexpectedToken)

/-- Reads a condition that begins in column `column`. -/
def readCondition (column : Nat) (text : List Char) : Except Flaw Condition :=
  if isBlankText text then .error (Flaw.at column text .missingCondition)
  else do
    let tokens ← Token.scan column text
    readTokens (column + text.length) tokens

end Gamebook.Markup
