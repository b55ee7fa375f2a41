/-
  State directives as they are written: a verb, a target, and for some of them an operand.

  `set` puts a flag up, or down with the operand `false`; `clear` puts it down. `set` gives a
  counter the operand as its value; `incr` and `decr` add and subtract the operand, or one.
-/
import Gamebook.Markup.Grammar
import Gamebook.Markup.Name
import Gamebook.Markup.Problem
import Gamebook.Markup.Token
import Gamebook.Story
import Gamebook.Text.Blank
import Gamebook.Text.Numeral

namespace Gamebook.Markup

open Gamebook.Text

/-! ## Targets and operands -/

/-- What a state directive changes. -/
inductive Target where
  | flag (name : String)
  | counter (name : String)
deriving DecidableEq

/-- Reads a word as a target: `flag:` or `counter:` and a name. -/
def Target.read? (word : List Char) : Option Target :=
  match afterPrefix? "flag:".toList word, afterPrefix? "counter:".toList word with
  | some name, _ => if isName name then some (.flag (String.ofList name)) else none
  | none, some name => if isName name then some (.counter (String.ofList name)) else none
  | none, none => none

/-- A word of the arguments with its column. -/
structure Operand where
  text : List Char
  column : Nat
deriving DecidableEq

/-- The flaw that shows at an operand. -/
def Operand.flaw (operand : Operand) (problem : Problem) : Flaw :=
  Flaw.at operand.column operand.text problem

/-! ## Changes -/

/-- The change of a flag. -/
def readFlagChange (verb : Verb) (name : String) (word : Operand) (operand : Option Operand) :
    Except Flaw StateChange :=
  match verb, operand with
  | .clear, some operand => .error (operand.flaw .clearWithValue)
  | .clear, none => .ok ⟨.clearFlag, name, none⟩
  | .set, none => .ok ⟨.setFlag, name, none⟩
  | .set, some operand =>
    if operand.text = "true".toList then .ok ⟨.setFlag, name, none⟩
    else if operand.text = "false".toList then .ok ⟨.clearFlag, name, none⟩
    else .error (operand.flaw (.invalidFlagValue (String.ofList operand.text)))
  | .incr, _ => .error (word.flaw (.counterExpected Verb.incr.text))
  | .decr, _ => .error (word.flaw (.counterExpected Verb.decr.text))

/-- Reads an operand as a number. -/
def Operand.amount (operand : Operand) : Except Flaw Int :=
  match readInteger? operand.text with
  | some amount => .ok amount
  | none => .error (operand.flaw (.invalidAmount (String.ofList operand.text)))

/-- The change of a counter. -/
def readCounterChange (verb : Verb) (name : String) (word : Operand) (operand : Option Operand) :
    Except Flaw StateChange :=
  match verb with
  | .clear => .error (word.flaw .flagExpected)
  | .set => do
    match ← operand.mapM Operand.amount with
    | some amount => .ok ⟨.setCounter, name, some amount⟩
    | none => .error (word.flaw .missingCounterValue)
  | .incr => do
    let amount ← operand.mapM Operand.amount
    .ok ⟨.increment, name, some (amount.getD 1)⟩
  | .decr => do
    let amount ← operand.mapM Operand.amount
    .ok ⟨.decrement, name, some (amount.getD 1)⟩

/-- Reads the trimmed arguments of a state directive, which begin in column `column`. -/
def readChange (verb : Verb) (column : Nat) (arguments : List Char) : Except Flaw StateChange :=
  match words arguments with
  | [] =>
    .error (Flaw.at column (directiveMark :: verb.text.toList) (.missingTarget verb.text))
  | first :: others =>
    let word : Operand := ⟨first, column⟩
    let operandColumn := column + first.length + indentation (arguments.drop first.length)
    match Target.read? first with
    | none => .error (word.flaw (.invalidTarget (String.ofList first)))
    | some target =>
      if 1 < others.length then
        .error (Flaw.at operandColumn arguments (.tooManyOperands verb.text))
      else
        let operand := others.head?.map (⟨·, operandColumn⟩)
        match target with
        | .flag name => readFlagChange verb name word operand
        | .counter name => readCounterChange verb name word operand

end Gamebook.Markup
