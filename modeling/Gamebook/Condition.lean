/-
  Conditions on the state of a story.

  A condition asks for a flag, compares a counter with a number, or combines other conditions.
  `evaluate` gives its truth in a state; of a conjunction or a disjunction the right-hand side is
  looked at only when the left-hand side leaves the answer open. `describe` writes a condition in
  the notation of story files.
-/
import Gamebook.Fault
import Gamebook.State

namespace Gamebook

/-! ## Comparisons -/

/-- How a counter is compared with a number. -/
inductive Comparison where
  | less
  | atMost
  | equal
  | atLeast
  | greater
  /-- A symbol that stands for no comparison. -/
  | other (symbol : String)
deriving DecidableEq

namespace Comparison

/-- The symbol of a comparison. -/
def symbol : Comparison → String
  | less => "<"
  | atMost => "<="
  | equal => "=="
  | atLeast => ">="
  | greater => ">"
  | other symbol => symbol

/-- The comparison that a symbol stands for. -/
def ofSymbol (symbol : String) : Comparison :=
  if symbol = "<" then less
  else if symbol = "<=" then atMost
  else if symbol = "==" then equal
  else if symbol = ">=" then atLeast
  else if symbol = ">" then greater
  else other symbol

/-- Whether two numbers compare so. -/
def holds (a b : Int) : Comparison → Except Fault Bool
  | less => .ok (decide (a < b))
  | atMost => .ok (decide (a ≤ b))
  | equal => .ok (decide (a = b))
  | atLeast => .ok (decide (b ≤ a))
  | greater => .ok (decide (b < a))
  | other symbol => .error (.unknownComparison symbol)

end Comparison

/-! ## Conditions -/

/-- A condition on flags and counters. -/
inductive Condition where
  | flag (name : String) (expected : Bool)
  | counter (name : String) (comparison : Comparison) (value : Int)
  | not (operand : Condition)
  | and (left right : Condition)
  | or (left right : Condition)
  /-- Something of another form, known by its text only. -/
  | unknown (form : String)
deriving DecidableEq

namespace Condition

/-- The truth of a condition in a state. -/
def evaluate (state : State) : Condition → Except Fault Bool
  | flag name expected => .ok (state.flag name == expected)
  | counter name comparison value => comparison.holds (state.counter name) value
  | not operand =>
    match operand.evaluate state with
    | .error fault => .error fault
    | .ok truth => .ok !truth
  | and left right =>
    match left.evaluate state with
    | .error fault => .error fault
    | .ok false => .ok false
    | .ok true => right.evaluate state
  | or left right =>
    match left.evaluate state with
    | .error fault => .error fault
    | .ok true => .ok true
    | .ok false => right.evaluate state
  | unknown form => .error (.unsupportedCondition form)

/-- The condition in the notation of story files. A negation puts its operand in parentheses, and a
    conjunction or a disjunction puts itself in parentheses. -/
def describe : Condition → Except Fault String
  | flag name expected => .ok (if expected then "flag:" ++ name else "flag:" ++ name ++ "==false")
  | counter name comparison value =>
    .ok ("counter:" ++ name ++ " " ++ comparison.symbol ++ " " ++ Text.integer value)
  | not operand => do
    let operand ← operand.describe
    .ok ("not (" ++ operand ++ ")")
  | and left right => do
    let left ← left.describe
    let right ← right.describe
    .ok ("(" ++ left ++ " and " ++ right ++ ")")
  | or left right => do
    let left ← left.describe
    let right ← right.describe
    .ok ("(" ++ left ++ " or " ++ right ++ ")")
  | unknown form => .error (.unsupportedCondition form)

end Condition
end Gamebook
