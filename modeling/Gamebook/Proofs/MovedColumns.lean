/-
  A condition is read alike in whatever columns it stands.

  The reader of conditions never looks at a column: it takes the columns of the tokens, and the one
  that the text ends before, and puts one of them into a flaw.  So it makes no difference whether
  the columns are renamed before it reads or after (`LevelsMove`, one equation for each level, and
  `readTokens_moved`).  Two things follow:

  * `column_of_readTokens`: the column of a flaw is one of those the reader was given, for any other
    column could be renamed while these are kept.
  * `readCondition_moved`: a condition that stands further on in a line is read as the same
    condition, or shows the same flaw just as much further on (`readCondition_elsewhere`).

  Renaming is stated for any function on columns, although only one is used that moves all of them
  by the same amount.  The first of the two facts needs another one, which moves a single column.
-/
import Gamebook.Markup.ConditionText

namespace Gamebook.Markup

open Gamebook.Text

/-! ## Renaming columns

  The result of a reader is a value or a flaw, and a reader of tokens gives back those that are
  left.  Columns are renamed in all of these; values have none. -/

/-- The token in the column that its own is renamed to. -/
def Token.moved (f : Nat → Nat) (token : Token) : Token := { token with column := f token.column }

/-- The flaw in the column that its own is renamed to. -/
def Flaw.moved (f : Nat → Nat) (flaw : Flaw) : Flaw := { flaw with column := f flaw.column }

variable {α β : Type} {f : Nat → Nat}

/-- The result with `g` done to what was read, and with the column of a flaw renamed. -/
def movedBy (f : Nat → Nat) (g : α → α) : Except Flaw α → Except Flaw α
  | .ok value => .ok (g value)
  | .error flaw => .error (flaw.moved f)

/-- What was read and what is left, with the columns of both renamed. -/
def movedRest (f : Nat → Nat) (g : α → α) (read : α × List Token) : α × List Token :=
  (g read.1, read.2.map (Token.moved f))

/-- Of two readers one after the other, both can be given the renamed columns. -/
theorem movedBy_bind {g : α → α} {k : β → β} {result : Except Flaw α}
    {next moved : α → Except Flaw β} (h : ∀ value, moved (g value) = movedBy f k (next value)) :
    movedBy f g result >>= moved = movedBy f k (result >>= next) := by
  cases result with
  | error flaw => rfl
  | ok value => exact h value

/-! ## Tests

  No test looks at a column, so either side goes the same way through it. -/

theorem nextToken_moved (stop : Nat) (expected : Expectation) (tokens : List Token) :
    nextToken (f stop) expected (tokens.map (Token.moved f)) =
      movedBy f (movedRest f (Token.moved f)) (nextToken stop expected tokens) := by
  cases tokens <;> rfl

theorem readFlagTest_moved (stop : Nat) (name : String) (tokens : List Token) :
    readFlagTest (f stop) name (tokens.map (Token.moved f)) =
      movedBy f (movedRest f id) (readFlagTest stop name tokens) := by
  cases tokens with
  | nil => rfl
  | cons token rest =>
    obtain ⟨symbol, text, column⟩ := token
    cases symbol with
    | relation relation =>
      simp only [List.map_cons, Token.moved, readFlagTest]
      split
      next =>
        rw [nextToken_moved]
        refine movedBy_bind fun ⟨answer, others⟩ => ?_
        obtain ⟨symbol, text, column⟩ := answer
        cases symbol <;> rfl
      next => rfl
    | _ => rfl

theorem readCounterTest_moved (stop : Nat) (name reference : String) (tokens : List Token) :
    readCounterTest (f stop) name reference (tokens.map (Token.moved f)) =
      movedBy f (movedRest f id) (readCounterTest stop name reference tokens) := by
  rw [readCounterTest, readCounterTest, nextToken_moved]
  refine movedBy_bind fun ⟨comparison, rest⟩ => ?_
  obtain ⟨symbol, text, column⟩ := comparison
  cases symbol with
  | relation relation =>
    show nextToken (f stop) .integer (rest.map (Token.moved f)) >>= _ = _
    rw [nextToken_moved]
    refine movedBy_bind fun ⟨number, others⟩ => ?_
    obtain ⟨symbol, text, column⟩ := number
    cases symbol <;> rfl
  | _ => rfl

/-! ## The three levels

  The five readers of the levels call each other, with less fuel each time.  What one of them needs
  of the others is therefore collected in one structure, for one amount of fuel. -/

/-- With so much fuel, the three levels can be given the renamed columns. -/
structure LevelsMove (f : Nat → Nat) (stop fuel : Nat) : Prop where
  disjunction : ∀ tokens, readDisjunction (f stop) fuel (tokens.map (Token.moved f)) =
    movedBy f (movedRest f id) (readDisjunction stop fuel tokens)
  disjuncts : ∀ left tokens,
    readMoreDisjuncts (f stop) fuel left (tokens.map (Token.moved f)) =
      movedBy f (movedRest f id) (readMoreDisjuncts stop fuel left tokens)
  conjunction : ∀ tokens, readConjunction (f stop) fuel (tokens.map (Token.moved f)) =
    movedBy f (movedRest f id) (readConjunction stop fuel tokens)
  conjuncts : ∀ left tokens,
    readMoreConjuncts (f stop) fuel left (tokens.map (Token.moved f)) =
      movedBy f (movedRest f id) (readMoreConjuncts stop fuel left tokens)
  negation : ∀ tokens, readNegation (f stop) fuel (tokens.map (Token.moved f)) =
    movedBy f (movedRest f id) (readNegation stop fuel tokens)

theorem readNegation_moved {stop fuel : Nat} (ih : LevelsMove f stop fuel) (tokens : List Token) :
    readNegation (f stop) (fuel + 1) (tokens.map (Token.moved f)) =
      movedBy f (movedRest f id) (readNegation stop (fuel + 1) tokens) := by
  cases tokens with
  | nil => rfl
  | cons token rest =>
    obtain ⟨symbol, text, column⟩ := token
    cases symbol with
    | not =>
      show readNegation (f stop) fuel (rest.map (Token.moved f)) >>= _ = _
      rw [ih.negation]
      exact movedBy_bind fun ⟨operand, others⟩ => rfl
    | openParen =>
      show readDisjunction (f stop) fuel (rest.map (Token.moved f)) >>= _ = _
      rw [ih.disjunction]
      refine movedBy_bind fun ⟨inner, others⟩ => ?_
      show nextToken (f stop) .closing (others.map (Token.moved f)) >>= _ = _
      rw [nextToken_moved]
      refine movedBy_bind fun ⟨closing, last⟩ => ?_
      show (if closing.symbol = .closeParen then _ else _) =
        movedBy f (movedRest f id) (if closing.symbol = .closeParen then _ else _)
      -- The same token closes the parentheses, or fails to, wherever it stands.
      by_cases hclose : closing.symbol = .closeParen
      · rw [if_pos hclose, if_pos hclose]
        rfl
      · rw [if_neg hclose, if_neg hclose]
        rfl
    | flag name => exact readFlagTest_moved stop name rest
    | counter name => exact readCounterTest_moved stop name text rest
    | _ => rfl

theorem levelsMove (f : Nat → Nat) (stop fuel : Nat) : LevelsMove f stop fuel := by
  -- Every level calls the others with less fuel, so all five go through the induction together.
  induction fuel with
  | zero => constructor <;> intros <;> rfl
  | succ fuel ih =>
    constructor
    case disjunction =>
      intro tokens
      rw [readDisjunction, readDisjunction, ih.conjunction]
      exact movedBy_bind fun ⟨left, rest⟩ => ih.disjuncts left rest
    case disjuncts =>
      intro left tokens
      cases tokens with
      | nil => rfl
      | cons token rest =>
        obtain ⟨symbol, text, column⟩ := token
        cases symbol with
        | or =>
          show readConjunction (f stop) fuel (rest.map (Token.moved f)) >>= _ = _
          rw [ih.conjunction]
          exact movedBy_bind fun ⟨right, others⟩ => ih.disjuncts (.or left right) others
        | _ => rfl
    case conjunction =>
      intro tokens
      rw [readConjunction, readConjunction, ih.negation]
      exact movedBy_bind fun ⟨left, rest⟩ => ih.conjuncts left rest
    case conjuncts =>
      intro left tokens
      cases tokens with
      | nil => rfl
      | cons token rest =>
        obtain ⟨symbol, text, column⟩ := token
        cases symbol with
        | and =>
          show readNegation (f stop) fuel (rest.map (Token.moved f)) >>= _ = _
          rw [ih.negation]
          exact movedBy_bind fun ⟨right, others⟩ => ih.conjuncts (.and left right) others
        | _ => rfl
    case negation => exact readNegation_moved ih

/-! ## Whole conditions

  From here on there are texts instead of tokens, and the renaming is that of a text which stands
  further on. -/

/-- **Tokens are read alike in whatever columns they stand.** -/
theorem readTokens_moved (f : Nat → Nat) (stop : Nat) (tokens : List Token) :
    readTokens (f stop) (tokens.map (Token.moved f)) = movedBy f id (readTokens stop tokens) := by
  have hfuel : fuelFor (tokens.map (Token.moved f)) = fuelFor tokens := by
    rw [fuelFor, fuelFor, List.length_map]
  rw [readTokens, readTokens, hfuel, (levelsMove f stop _).disjunction]
  refine movedBy_bind fun ⟨condition, rest⟩ => ?_
  cases rest <;> rfl

/-- **The column of a flaw is one of those that the reader was given**: that of a token, or the one
    that the text ends before. -/
theorem column_of_readTokens {stop : Nat} {tokens : List Token} {flaw : Flaw}
    (h : readTokens stop tokens = .error flaw) :
    flaw.column = stop ∨ ∃ token ∈ tokens, flaw.column = token.column := by
  refine Classical.byContradiction fun hother => ?_
  obtain ⟨hstop, htokens⟩ := not_or.1 hother
  -- Renaming this column alone changes nothing for the reader, but would change the flaw.
  let rename (column : Nat) : Nat := if column = flaw.column then column + 1 else column
  have hkept : tokens.map (Token.moved rename) = tokens := by
    refine (List.map_congr_left fun token hmem => ?_).trans (List.map_id tokens)
    have hne : ¬ token.column = flaw.column := fun heq => htokens ⟨token, hmem, heq.symm⟩
    show { token with column := rename token.column } = token
    rw [show rename token.column = token.column from if_neg hne]
  have hmoved := readTokens_moved rename stop tokens
  rw [hkept, show rename stop = stop from if_neg fun heq => hstop heq.symm, h] at hmoved
  have hcolumn : flaw.column = rename flaw.column :=
    congrArg Flaw.column (Except.error.inj hmoved)
  rw [show rename flaw.column = flaw.column + 1 from if_pos rfl] at hcolumn
  omega

/-- The text of a condition is divided alike wherever it stands. -/
theorem scanFrom_moved (whole : List Char) (column skip more : Nat) (text : List Char) :
    Token.scanFrom whole (column + more) skip text =
      movedBy (· + more) (List.map (Token.moved (· + more)))
        (Token.scanFrom whole column skip text) := by
  induction text generalizing column skip with
  | nil => cases skip <;> rfl
  | cons c rest ih =>
    have hnext : column + more + 1 = column + 1 + more := by omega
    cases skip with
    | succ skip =>
      rw [Token.scanFrom, Token.scanFrom, hnext]
      exact ih (column + 1) skip
    | zero =>
      rw [Token.scanFrom, Token.scanFrom, hnext]
      split
      next => exact ih (column + 1) 0
      next =>
        split
        next => rfl
        next => rfl
        -- The columns are counted along with the characters, on both sides alike.
        next symbol length _ =>
          rw [ih (column + 1) (length - 1)]
          cases Token.scanFrom whole (column + 1) (length - 1) rest <;> rfl

/-- **A condition that stands further on in a line is read alike**, and a flaw of it shows just as
    much further on. -/
theorem readCondition_moved (column more : Nat) (text : List Char) :
    readCondition (column + more) text =
      movedBy (· + more) id (readCondition column text) := by
  rw [readCondition, readCondition]
  split
  next => rfl
  next =>
    rw [Token.scan, scanFrom_moved]
    refine movedBy_bind fun tokens => ?_
    have hstop : column + more + text.length = column + text.length + more := by omega
    rw [hstop]
    exact readTokens_moved (· + more) (column + text.length) tokens

/-- A flaw of a condition is so many characters behind its beginning, wherever that is. -/
theorem readCondition_elsewhere {column : Nat} {text : List Char} {flaw : Flaw}
    (h : readCondition column text = .error flaw) :
    ∃ offset, flaw.column = offset + column ∧
      ∀ other, readCondition other text = .error { flaw with column := offset + other } := by
  have hmoved : ∀ other, readCondition other text =
      movedBy (· + other) id (readCondition 0 text) := by
    intro other
    rw [← readCondition_moved, Nat.zero_add]
  rw [hmoved] at h
  cases hfirst : readCondition 0 text with
  | ok condition =>
    rw [hfirst] at h
    cases h
  | error first =>
    rw [hfirst] at h
    cases h
    exact ⟨first.column, rfl, fun other => by rw [hmoved, hfirst]; rfl⟩

end Gamebook.Markup
