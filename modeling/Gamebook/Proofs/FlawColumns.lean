/-
  A flaw shows in the line that has it.

  Every reader is given a piece of a line and the column that the piece begins in.  Whatever flaw it
  finds is one of this piece, not of what comes later, and shows in it or, where something is
  missing, right behind it (`FlawsIn`).  The pieces that a reader hands on lie within its own, so
  one equation between lengths for each reader is enough, and a line as a whole is the piece behind
  its blanks:

  * `readCondition_flaws`, `readChange_flaws`, `readOption_flaws`: the arguments of directives.
  * `readNarrative_flaws`: in narrative every flaw shows at a marker.
  * `Directive.within`: the keyword and the arguments of a directive lie in its line.
  * `takeLine_flaws`: so the column is behind the blanks in front of the line, and no further on
    than one character behind its end.

  That the flaw is one of the line has to go along with the column, because a few flaws are found
  only at the end of the file and show elsewhere.  `IsOfLine` excludes these; the readers of lines
  never come to one of them.
-/
import Gamebook.Proofs.MovedColumns
import Gamebook.Proofs.NarrativeRoundTrip
import Gamebook.Proofs.TextPieces

namespace Gamebook.Text

/-! ## Lengths

  Where a piece begins is told in columns, and how far it goes in characters.  So the equations that
  are needed say how the parts of a text add up: blanks and what follows them, pieces and the marks
  between them, a piece that was searched for and what is in front of it. -/

/-- The blanks in front of a text and what is left of it make up the text. -/
theorem indentation_add_length (text : List Char) :
    indentation text + (trimLeft text).length = text.length := by
  have hparts := congrArg List.length (List.takeWhile_append_dropWhile (p := isBlank) (l := text))
  rw [List.length_append] at hparts
  exact hparts

theorem indentation_cons_of_blank {c : Char} (h : isBlank c = true) (rest : List Char) :
    indentation (c :: rest) = indentation rest + 1 := by
  rw [indentation, List.takeWhile_cons_of_pos h]
  rfl

theorem indentation_cons_of_not_blank {c : Char} (h : ¬ isBlank c = true) (rest : List Char) :
    indentation (c :: rest) = 0 := by
  rw [indentation, List.takeWhile_cons_of_neg h]
  rfl

/-- The first character of a piece that is found, and all behind it, are in the text. -/
theorem length_of_indexOf? {piece text : List Char} {index : Nat}
    (h : indexOf? piece text = some index) : index + piece.length ≤ text.length := by
  induction text generalizing index with
  | nil =>
    rw [indexOf?] at h
    split at h
    next hempty =>
      cases h
      rw [List.isEmpty_iff.1 hempty]
      exact Nat.le_refl _
    next => cases h
  | cons c rest ih =>
    rw [indexOf?] at h
    split at h
    next hpre =>
      cases h
      have hle := (List.isPrefixOf_iff_prefix.1 hpre).length_le
      omega
    next =>
      obtain ⟨before, hbefore, rfl⟩ := Option.map_eq_some_iff.1 h
      have hle := ih hbefore
      rw [List.length_cons]
      omega

/-- How many characters pieces take up, each with one mark behind it. -/
def markedLength : List (List Char) → Nat
  | [] => 0
  | piece :: rest => piece.length + 1 + markedLength rest

/-- The pieces of a text, and one character for each cut between them, make up the text. -/
theorem markedLength_splitWhere (cut : Char → Bool) (text : List Char) :
    markedLength (splitWhere cut text) = text.length + 1 := by
  rw [splitWhere]
  induction text with
  | nil => rfl
  | cons c rest ih =>
    rw [List.foldr_cons]
    generalize rest.foldr (splitWhere.step cut) ([], []) = parts at ih ⊢
    obtain ⟨first, others⟩ := parts
    rw [splitWhere.step]
    simp only [markedLength, List.length_cons] at ih ⊢
    split
    -- A mark begins a new piece; any other character lengthens the first of those behind it.
    next => simp only [markedLength, List.length_nil]; omega
    next => simp only [List.length_cons]; omega

end Gamebook.Text

namespace Gamebook.Markup

open Gamebook.Text

/-- Whether an outcome is this error is decidable, also where values cannot be compared. -/
instance decidableEqError {ε α : Type} [DecidableEq ε] (result : Except ε α) (error : ε) :
    Decidable (result = .error error) :=
  match result with
  | .ok _ => isFalse nofun
  | .error other => decidable_of_iff (other = error) (by rw [Except.error.injEq])

/-! ## Flaws of a line

  A property of all flaws that a reader can find.  Reading in steps has it if each step has, which
  is how it is shown for every reader below. -/

/-- The directive that a problem leaves open. A line that opens something has no fault in itself;
    that the end of it is missing, or the block that it names, is found when all lines are read. -/
def Problem.opener? : Problem → Option Keyword
  | unterminatedBlock _ => some .block
  | unterminatedConditional => some .openIf
  | undefinedEntry _ => some .entry
  | _ => none

/-- The flaw is one of the line that it shows in. -/
def IsOfLine (flaw : Flaw) : Prop := flaw.problem.opener? = none

section

variable {α β : Type} {p : Flaw → Prop} {result : Except Flaw α}

/-- Whatever flaw there is has the property. -/
def AllFlaws (p : Flaw → Prop) (result : Except Flaw α) : Prop :=
  ∀ flaw, result = .error flaw → p flaw

theorem allFlaws_ok (value : α) : AllFlaws p (.ok value : Except Flaw α) := nofun

theorem allFlaws_error {flaw : Flaw} (h : p flaw) : AllFlaws p (.error flaw : Except Flaw α) := by
  intro other hother
  cases hother
  exact h

/-- The flaws of reading one thing after another. -/
theorem AllFlaws.bind {next : α → Except Flaw β} (h : AllFlaws p result)
    (hnext : ∀ value, result = .ok value → AllFlaws p (next value)) :
    AllFlaws p (result >>= next) := by
  cases result with
  | error flaw => exact allFlaws_error (h flaw rfl)
  | ok value => exact hnext value rfl

theorem AllFlaws.map (h : AllFlaws p result) (g : α → β) : AllFlaws p (result.map g) := by
  cases result with
  | error flaw => exact allFlaws_error (h flaw rfl)
  | ok value => exact allFlaws_ok (g value)

end

/-! ## Flaws in a piece of a line

  The last position that counts is the one right behind the piece: this is where something is told
  to be missing.  A flaw in a smaller piece is one in the larger piece that it lies in
  (`FlawsIn.mono`), which is the only way in which the statements about readers are put together. -/

/-- The position is in a piece of so many characters that begins in this column, or right behind the
    piece. -/
def IsWithin (column length position : Nat) : Prop :=
  column ≤ position ∧ position ≤ column + length

/-- Whatever flaw there is is one of the line, and shows in the piece. -/
def FlawsIn {α : Type} (column length : Nat) (result : Except Flaw α) : Prop :=
  AllFlaws (fun flaw => IsOfLine flaw ∧ IsWithin column length flaw.column) result

section

variable {α : Type} {column length inner size : Nat} {result : Except Flaw α}

theorem IsWithin.mono {position : Nat} (h : IsWithin inner size position) (hfirst : column ≤ inner)
    (hlast : inner + size ≤ column + length) : IsWithin column length position :=
  ⟨Nat.le_trans hfirst h.1, Nat.le_trans h.2 hlast⟩

/-- A piece of the piece is handed on. -/
theorem FlawsIn.mono (h : FlawsIn inner size result) (hfirst : column ≤ inner)
    (hlast : inner + size ≤ column + length) : FlawsIn column length result :=
  fun flaw hflaw => ⟨(h flaw hflaw).1, (h flaw hflaw).2.mono hfirst hlast⟩

theorem flawsIn_error {flaw : Flaw} (hproblem : IsOfLine flaw)
    (h : IsWithin column length flaw.column) :
    FlawsIn column length (.error flaw : Except Flaw α) := allFlaws_error ⟨hproblem, h⟩

end

/-! ## Conditions

  A flaw of a condition shows at a token or, where one is missing, behind the last one.  That it
  shows at one of the tokens is known from `column_of_readTokens`; here it is added that the tokens
  stand in the text, and that no reader of tokens finds a flaw of another line. -/

/-- What is no token shows where it stands. -/
theorem scanFrom_flaws (whole : List Char) (column skip : Nat) (text : List Char) :
    FlawsIn column text.length (Token.scanFrom whole column skip text) := by
  induction text generalizing column skip with
  | nil => cases skip <;> exact allFlaws_ok []
  | cons c rest ih =>
    -- What is left begins one column further on, and is one character shorter.
    have hrest : ∀ skip, FlawsIn column (c :: rest).length
        (Token.scanFrom whole (column + 1) skip rest) := by
      intro skip
      refine (ih (column + 1) skip).mono (by omega) ?_
      rw [List.length_cons]
      omega
    have hhere : IsWithin column (c :: rest).length column := ⟨by omega, by omega⟩
    cases skip with
    | succ skip => exact hrest skip
    | zero =>
      rw [Token.scanFrom]
      split
      next => exact hrest 0
      next =>
        split
        next => exact flawsIn_error rfl hhere
        next => exact flawsIn_error rfl hhere
        next => exact (hrest _).map _

/-- The tokens of a text stand in it. -/
theorem within_of_mem_scanFrom {whole : List Char} {column skip : Nat} {text : List Char}
    {tokens : List Token} (h : Token.scanFrom whole column skip text = .ok tokens) {token : Token}
    (hmem : token ∈ tokens) : IsWithin column text.length token.column := by
  induction text generalizing column skip tokens with
  | nil => cases skip <;> cases h <;> cases hmem
  | cons c rest ih =>
    have hrest : ∀ {skip tokens}, Token.scanFrom whole (column + 1) skip rest = .ok tokens →
        token ∈ tokens → IsWithin column (c :: rest).length token.column := by
      intro skip tokens hscan hmem
      refine (ih hscan hmem).mono (by omega) ?_
      rw [List.length_cons]
      omega
    cases skip with
    | succ skip => exact hrest h hmem
    | zero =>
      rw [Token.scanFrom] at h
      split at h
      next => exact hrest h hmem
      next =>
        split at h
        next => cases h
        next => cases h
        next symbol length _ =>
          obtain ⟨others, hothers, rfl⟩ := map_eq_ok_iff.1 h
          rcases List.mem_cons.1 hmem with rfl | hmem
          · exact ⟨Nat.le_refl _, Nat.le_add_right _ _⟩
          · exact hrest hothers hmem

/-- That a token is missing is a flaw of the line. -/
theorem nextToken_ofLine (stop : Nat) (expected : Expectation) (tokens : List Token) :
    AllFlaws IsOfLine (nextToken stop expected tokens) := by
  cases tokens with
  | nil => exact allFlaws_error rfl
  | cons token rest => exact allFlaws_ok _

/-- So is whatever is wrong with the comparison of a flag. -/
theorem readFlagTest_ofLine (stop : Nat) (name : String) (tokens : List Token) :
    AllFlaws IsOfLine (readFlagTest stop name tokens) := by
  rw [readFlagTest.eq_def]
  split
  next =>
    split
    next =>
      refine (nextToken_ofLine _ _ _).bind fun read _ => ?_
      obtain ⟨⟨symbol, text, column⟩, rest⟩ := read
      cases symbol with
      | truth value => exact allFlaws_ok _
      | _ => exact allFlaws_error rfl
    next => exact allFlaws_error rfl
  next => exact allFlaws_ok _

/-- Or with that of a counter. -/
theorem readCounterTest_ofLine (stop : Nat) (name reference : String) (tokens : List Token) :
    AllFlaws IsOfLine (readCounterTest stop name reference tokens) := by
  refine (nextToken_ofLine _ _ _).bind fun ⟨comparison, rest⟩ _ => ?_
  obtain ⟨symbol, text, column⟩ := comparison
  cases symbol with
  | relation relation =>
    refine (nextToken_ofLine _ _ _).bind fun ⟨number, others⟩ _ => ?_
    obtain ⟨symbol, text, column⟩ := number
    cases symbol with
    | integer value => exact allFlaws_ok _
    | _ => exact allFlaws_error rfl
  | _ => exact allFlaws_error rfl

/-- With so much fuel, a flaw that one of the levels finds is one of the line. -/
structure LevelsOfLine (stop fuel : Nat) : Prop where
  disjunction : ∀ tokens, AllFlaws IsOfLine (readDisjunction stop fuel tokens)
  disjuncts : ∀ left tokens, AllFlaws IsOfLine (readMoreDisjuncts stop fuel left tokens)
  conjunction : ∀ tokens, AllFlaws IsOfLine (readConjunction stop fuel tokens)
  conjuncts : ∀ left tokens, AllFlaws IsOfLine (readMoreConjuncts stop fuel left tokens)
  negation : ∀ tokens, AllFlaws IsOfLine (readNegation stop fuel tokens)

/-- No level finds a flaw of another line. All five go through the induction together. -/
theorem levelsOfLine (stop fuel : Nat) : LevelsOfLine stop fuel := by
  induction fuel with
  | zero => constructor <;> intros <;> exact allFlaws_error rfl
  | succ fuel ih =>
    constructor
    case disjunction =>
      intro tokens
      exact (ih.conjunction tokens).bind fun ⟨left, rest⟩ _ => ih.disjuncts left rest
    case disjuncts =>
      intro left tokens
      rw [readMoreDisjuncts.eq_def]
      split
      next heq => cases heq
      next heq =>
        cases heq
        exact (ih.conjunction _).bind fun ⟨right, rest⟩ _ => ih.disjuncts (.or _ right) rest
      next => exact allFlaws_ok _
    case conjunction =>
      intro tokens
      exact (ih.negation tokens).bind fun ⟨left, rest⟩ _ => ih.conjuncts left rest
    case conjuncts =>
      intro left tokens
      rw [readMoreConjuncts.eq_def]
      split
      next heq => cases heq
      next heq =>
        cases heq
        exact (ih.negation _).bind fun ⟨right, rest⟩ _ => ih.conjuncts (.and _ right) rest
      next => exact allFlaws_ok _
    case negation =>
      intro tokens
      rw [readNegation.eq_def]
      split
      next heq => cases heq
      next heq =>
        cases heq
        exact (ih.negation _).bind fun _ _ => allFlaws_ok _
      next heq _ =>
        cases heq
        refine (nextToken_ofLine _ _ _).bind fun ⟨token, rest⟩ _ => ?_
        obtain ⟨symbol, text, column⟩ := token
        cases symbol with
        | openParen =>
          refine (ih.disjunction rest).bind fun ⟨inner, others⟩ _ => ?_
          refine (nextToken_ofLine _ _ _).bind fun ⟨closing, last⟩ _ => ?_
          dsimp only
          split
          next => exact allFlaws_ok _
          next => exact allFlaws_error rfl
        | flag name => exact readFlagTest_ofLine stop name rest
        | counter name => exact readCounterTest_ofLine stop name text rest
        | _ => exact allFlaws_error rfl

/-- Nor does the reader of conditions, which looks for tokens behind the condition as well. -/
theorem readTokens_ofLine (stop : Nat) (tokens : List Token) :
    AllFlaws IsOfLine (readTokens stop tokens) := by
  refine ((levelsOfLine stop _).disjunction tokens).bind fun ⟨condition, rest⟩ _ => ?_
  cases rest with
  | nil => exact allFlaws_ok _
  | cons token others => exact allFlaws_error rfl

/-- **A flaw of a condition shows in it**, or right behind it if something is missing. -/
theorem readCondition_flaws (column : Nat) (text : List Char) :
    FlawsIn column text.length (readCondition column text) := by
  rw [readCondition]
  split
  next => exact flawsIn_error rfl ⟨Nat.le_refl _, Nat.le_add_right _ _⟩
  next =>
    refine (scanFrom_flaws text column 0 text).bind fun tokens hscan flaw hflaw => ?_
    refine ⟨readTokens_ofLine _ _ flaw hflaw, ?_⟩
    -- The column is that of the end of the text, or that of a token, which stands in the text.
    rcases column_of_readTokens hflaw with hstop | ⟨token, hmem, htoken⟩
    · rw [hstop]
      exact ⟨Nat.le_add_right _ _, Nat.le_refl _⟩
    · rw [htoken]
      exact within_of_mem_scanFrom hscan hmem

/-! ## Destinations

  All of them show in the first column, whatever is wrong with the destination. -/

/-- A flaw of a destination shows where it begins. -/
theorem readDestination_flaws (column : Nat) (text : List Char) :
    FlawsIn column 0 (readDestination column text) := by
  have hhere : IsWithin column 0 column := ⟨Nat.le_refl _, Nat.le_refl _⟩
  rw [readDestination]
  dsimp only
  split
  next => exact flawsIn_error rfl hhere
  next =>
    split
    next =>
      split
      next => exact flawsIn_error rfl hhere
      next =>
        split
        next => exact flawsIn_error rfl hhere
        next => exact allFlaws_ok _
    next =>
      split
      next => exact allFlaws_ok _
      next => exact flawsIn_error rfl hhere

/-! ## Changes

  Flaws show at the target, which begins the arguments, or at the operand.  The operand stands
  behind the target, by an equation between lengths. -/

section

variable {column length : Nat} {word : Operand} {operand : Option Operand}

/-- A change of a flag is wrong in its target or in its operand. -/
theorem readFlagChange_flaws (verb : Verb) (name : String)
    (hword : IsWithin column length word.column)
    (hoperand : ∀ other, operand = some other → IsWithin column length other.column) :
    FlawsIn column length (readFlagChange verb name word operand) := by
  cases verb with
  | clear =>
    cases operand with
    | none => exact allFlaws_ok _
    | some other => exact flawsIn_error rfl (hoperand other rfl)
  | set =>
    cases operand with
    | none => exact allFlaws_ok _
    | some other =>
      rw [readFlagChange]
      split
      next => exact allFlaws_ok _
      next =>
        split
        next => exact allFlaws_ok _
        next => exact flawsIn_error rfl (hoperand other rfl)
  | incr => exact flawsIn_error rfl hword
  | decr => exact flawsIn_error rfl hword

/-- An amount is wrong in the operand that should be one. -/
theorem mapM_amount_flaws
    (hoperand : ∀ other, operand = some other → IsWithin column length other.column) :
    FlawsIn column length (operand.mapM Operand.amount) := by
  cases operand with
  | none => exact allFlaws_ok none
  | some other =>
    show FlawsIn column length (other.amount.map some)
    rw [Operand.amount]
    split
    next => exact allFlaws_ok _
    next => exact flawsIn_error rfl (hoperand other rfl)

/-- A change of a counter likewise. -/
theorem readCounterChange_flaws (verb : Verb) (name : String)
    (hword : IsWithin column length word.column)
    (hoperand : ∀ other, operand = some other → IsWithin column length other.column) :
    FlawsIn column length (readCounterChange verb name word operand) := by
  cases verb with
  | clear => exact flawsIn_error rfl hword
  | set =>
    refine (mapM_amount_flaws hoperand).bind fun amount _ => ?_
    cases amount with
    | none => exact flawsIn_error rfl hword
    | some amount => exact allFlaws_ok _
  | incr => exact (mapM_amount_flaws hoperand).bind fun amount _ => allFlaws_ok _
  | decr => exact (mapM_amount_flaws hoperand).bind fun amount _ => allFlaws_ok _

end

/-- A flaw of a change shows at its target or at its operand. -/
theorem readChange_flaws (verb : Verb) (column : Nat) (arguments : List Char) :
    FlawsIn column arguments.length (readChange verb column arguments) := by
  have hhere : IsWithin column arguments.length column := ⟨Nat.le_refl _, Nat.le_add_right _ _⟩
  rw [readChange]
  split
  next => exact flawsIn_error rfl hhere
  next first others hwords =>
    -- The operand stands behind the target and the blanks there.
    have hoperand : IsWithin column arguments.length
        (column + first.length + indentation (arguments.drop first.length)) := by
      obtain ⟨c, rest, htext, -, rfl, -⟩ := words_eq_cons hwords
      have hwhole := indentation_add_length arguments
      have hdrop := indentation_add_length
        (arguments.drop (c :: rest.takeWhile (!isBlank ·)).length)
      have hword : (rest.takeWhile (!isBlank ·)).length ≤ rest.length :=
        (List.takeWhile_prefix _).length_le
      rw [htext, List.length_cons] at hwhole
      rw [List.length_drop, List.length_cons] at hdrop
      rw [List.length_cons]
      constructor <;> omega
    dsimp only
    split
    next => exact flawsIn_error rfl hhere
    next target _ =>
      split
      next => exact flawsIn_error rfl hoperand
      next =>
        have hsecond : ∀ other : Operand,
            others.head?.map (fun text => ⟨text, column + first.length +
              indentation (arguments.drop first.length)⟩) = some other →
            IsWithin column arguments.length other.column := by
          intro other hother
          obtain ⟨text, -, rfl⟩ := Option.map_eq_some_iff.1 hother
          exact hoperand
        cases target with
        | flag name => exact readFlagChange_flaws verb name hhere hsecond
        | counter name => exact readCounterChange_flaws verb name hhere hsecond

/-! ## Options

  An option is divided from both ends: the arrow is the last one, the label is in front of it and
  the destination with its guard behind it.  So each part is shown to lie in the arguments by an
  equation of its own. -/

/-- A flaw of a keyword shows in its part of the list. The parts that are left, each with the comma
    behind it, take up one character more than what is left of the list. -/
theorem readKeywords_flaws {list : List Char} {column length : Nat} {parts : List (List Char)}
    (h : markedLength parts ≤ length + 1) :
    FlawsIn column length (readKeywords list column parts) := by
  induction parts generalizing column length with
  | nil => exact allFlaws_ok []
  | cons part rest ih =>
    rw [markedLength] at h
    have hpart := indentation_add_length part
    have hhere : IsWithin column length (column + indentation part) := ⟨by omega, by omega⟩
    rw [readKeywords]
    split
    next => exact flawsIn_error rfl hhere
    next =>
      split
      next => exact flawsIn_error rfl hhere
      next =>
        cases rest with
        | nil => exact (allFlaws_ok []).map _
        | cons next others =>
          have hsum : 1 ≤ markedLength (next :: others) := by
            rw [markedLength]
            omega
          -- The next keyword begins behind the comma.
          have hrest : FlawsIn (column + part.length + 1) (length - (part.length + 1))
              (readKeywords list (column + part.length + 1) (next :: others)) := ih (by omega)
          exact (hrest.mono (by omega) (by omega)).map _

/-- A flaw of a label shows in its list of keywords. -/
theorem readLabel_flaws (column : Nat) (text : List Char) :
    FlawsIn column text.length (readLabel column text) := by
  have htrim : (trimRight text).length ≤ text.length := (trimRight_isPrefix text).length_le
  rw [readLabel]
  dsimp only
  split
  next label list _ hsplit =>
    obtain ⟨hwhole, -⟩ := splitLast?_singleton_iff.1 hsplit
    have hlengths := congrArg List.length hwhole
    rw [List.length_append, List.length_cons] at hlengths
    have hlist : list.dropLast.length ≤ list.length := (List.dropLast_prefix list).length_le
    have hkeywords : FlawsIn (column + label.length + 1) list.dropLast.length
        (readKeywords list.dropLast (column + label.length + 1)
          (splitWhere (· = ',') list.dropLast)) :=
      readKeywords_flaws (Nat.le_of_eq (markedLength_splitWhere _ list.dropLast))
    exact (hkeywords.mono (by omega) (by omega)).map _
  next => exact allFlaws_ok _

/-- A piece of a text is found in it, and does not go on behind its end. -/
theorem offsetOf_add_length {piece text : List Char} (h : piece <:+: text) :
    offsetOf piece text + piece.length ≤ text.length := by
  obtain ⟨index, hindex⟩ := Option.isSome_iff_exists.1 (indexOf?_isSome_iff.2 h)
  rw [offsetOf, hindex]
  exact length_of_indexOf? hindex

/-- A flaw of a guard shows somewhere behind the arrow: wherever the guard and its condition are
    found, they are in the text that is searched. -/
theorem readGuard_flaws (column : Nat) {target rest : List Char} (hrest : rest <:+ target) :
    FlawsIn column target.length (readGuard column target rest) := by
  have hguard := offsetOf_add_length ((trim_isInfix rest).trans hrest.isInfix)
  rw [readGuard]
  dsimp only
  split
  next => exact allFlaws_ok none
  next =>
    split
    next => exact flawsIn_error rfl ⟨Nat.le_add_right _ _, by dsimp only [Flaw.at]; omega⟩
    next =>
      have hcondition := offsetOf_add_length
        ((trim_isInfix (splitFirst ' ' (trim rest)).2).trans
          (splitFirst_isSuffix ' ' (trim rest)).isInfix)
      refine AllFlaws.map ?_ _
      exact (readCondition_flaws _ _).mono (by omega) (by omega)

/-- **A flaw of an option shows in its arguments**, or right behind them. -/
theorem readOption_flaws (column : Nat) (arguments : List Char) :
    FlawsIn column arguments.length (readOption column arguments) := by
  have hhere : IsWithin column arguments.length column := ⟨Nat.le_refl _, Nat.le_add_right _ _⟩
  rw [readOption]
  split
  next => exact flawsIn_error rfl hhere
  next before after hsplit =>
    obtain ⟨hwhole, -⟩ := splitLast?_eq_some_iff.1 hsplit
    have hlengths := congrArg List.length hwhole
    rw [List.length_append, List.length_cons, List.length_append] at hlengths
    have htarget := indentation_add_length after
    refine ((readLabel_flaws column before).mono (Nat.le_refl _) (by omega)).bind fun read _ => ?_
    obtain ⟨label, keywords⟩ := read
    dsimp only
    split
    next => exact flawsIn_error rfl hhere
    next =>
      refine ((readDestination_flaws _ _).mono (by omega) (by omega)).bind fun destination _ => ?_
      refine ((readGuard_flaws _ (splitFirst_isSuffix ' ' (trimLeft after))).mono
        (by omega) (by omega)).bind fun guard _ => allFlaws_ok _

/-! ## Narrative

  The markers of a line stand where their braces do.  If the line has an escape in front, which is
  left out before the markers are looked for, then the columns are counted from two on, and come out
  as if it had been left in. -/

/-- A marker has the column of its brace. -/
theorem column_of_markerAfterBrace? {column : Nat} {text : List Char} {marker : Marker}
    (h : markerAfterBrace? column text = some marker) : marker.column = column := by
  rw [markerAfterBrace?.eq_def] at h
  split at h <;>
  · obtain ⟨tag, -, rfl⟩ := Option.map_eq_some_iff.1 h
    rfl

/-- A marker stands where its brace does. -/
theorem column_of_mem_piecesFrom {column skip : Nat} {text : List Char} {marker : Marker}
    (h : .marker marker ∈ piecesFrom column skip text) :
    column ≤ marker.column ∧ marker.column < column + text.length := by
  induction text generalizing column skip with
  | nil => cases skip <;> cases h
  | cons c rest ih =>
    have hrest : ∀ {skip}, .marker marker ∈ piecesFrom (column + 1) skip rest →
        column ≤ marker.column ∧ marker.column < column + (c :: rest).length := by
      intro skip hmem
      have hcolumn := ih hmem
      rw [List.length_cons]
      omega
    cases skip with
    | succ skip => exact hrest h
    | zero =>
      rw [piecesFrom] at h
      split at h
      next =>
        split at h
        next =>
          rcases List.mem_cons.1 h with heq | hmem
          · cases heq
          · exact hrest hmem
        next =>
          split at h
          next found hmarker =>
            rcases List.mem_cons.1 h with heq | hmem
            · cases heq
              rw [column_of_markerAfterBrace? hmarker, List.length_cons]
              omega
            · exact hrest hmem
          next =>
            rcases List.mem_cons.1 h with heq | hmem
            · cases heq
            · exact hrest hmem
      next =>
        rcases List.mem_cons.1 h with heq | hmem
        · cases heq
        · exact hrest hmem

/-- No marker stands among the blanks in front of a line. -/
theorem indentation_le_of_mem_piecesFrom {column : Nat} {text : List Char} {marker : Marker}
    (h : .marker marker ∈ piecesFrom column 0 text) :
    column + indentation text ≤ marker.column := by
  induction text generalizing column with
  | nil => cases h
  | cons c rest ih =>
    by_cases hblank : isBlank c = true
    · have hother : ¬ c = '{' := fun heq => by rw [heq] at hblank; exact absurd hblank (by decide)
      rw [piecesFrom, if_neg hother] at h
      rcases List.mem_cons.1 h with heq | hmem
      · cases heq
      · have hle := ih hmem
        rw [indentation_cons_of_blank hblank]
        omega
    · rw [indentation_cons_of_not_blank hblank]
      exact (column_of_mem_piecesFrom h).1

/-- A flaw of the runs of a line shows at a marker. -/
theorem spanRuns_flaws {grammar : Grammar} {column length : Nat} {opened : Option Marker}
    {texts : List (List Char × Marker)} (tail : List Char)
    (hopened : ∀ opener, opened = some opener → IsWithin column length opener.column)
    (htexts : ∀ text ∈ texts, IsWithin column length text.2.column) :
    FlawsIn column length (spanRuns grammar opened texts tail) := by
  induction texts generalizing opened with
  | nil =>
    cases opened with
    | none => exact allFlaws_ok _
    -- The span that is still open at the end of the line shows at its opener.
    | some opener => exact flawsIn_error rfl (hopened opener rfl)
  | cons first rest ih =>
    obtain ⟨text, marker⟩ := first
    obtain ⟨hmarker, hrest⟩ := List.forall_mem_cons.1 htexts
    rw [spanRuns.eq_def]
    split
    next heq => cases heq
    next heq => cases heq
    next heq =>
      cases heq
      split
      next => exact flawsIn_error rfl hmarker
      next =>
        split
        next => exact flawsIn_error rfl hmarker
        next =>
          split
          next => exact (ih (fun _ hopener => by cases hopener) hrest).map _
          next => exact flawsIn_error rfl hmarker
        next => exact flawsIn_error rfl hmarker
        next =>
          refine AllFlaws.map (ih (fun opener hopener => ?_) hrest) _
          cases hopener
          exact hmarker

/-- **A flaw of a narrative line shows behind the blanks in front of it.** -/
theorem readNarrative_flaws (grammar : Grammar) (line : List Char) :
    FlawsIn (indentation line + 1) (trimLeft line).length (readNarrative grammar line) := by
  have hline := indentation_add_length line
  have hmarker : ∀ marker, .marker marker ∈
      piecesFrom (if isEscaped line then 2 else 1) 0 (unescape line) →
      IsWithin (indentation line + 1) (trimLeft line).length marker.column := by
    intro marker hmem
    have hfirst := indentation_le_of_mem_piecesFrom hmem
    have hlast := (column_of_mem_piecesFrom hmem).2
    rw [unescape] at hfirst hlast
    by_cases hescaped : isEscaped line = true
    · -- The escape is left out, and the columns behind it are counted as if it were there.
      rw [if_pos hescaped, if_pos hescaped] at hfirst hlast
      have hsome : 2 ≤ (trimLeft line).length :=
        (List.isPrefixOf_iff_prefix.1 hescaped).length_le
      have hblanks : indentation line ≤
          indentation (line.takeWhile isBlank ++ (trimLeft line).drop 1) := by
        rw [indentation, indentation, List.takeWhile_append_of_pos fun c => List.mem_takeWhile_imp,
          List.length_append]
        exact Nat.le_add_right _ _
      have hshort : (line.takeWhile isBlank ++ (trimLeft line).drop 1).length + 1 =
          line.length := by
        rw [List.length_append, List.length_drop, ← indentation]
        omega
      exact ⟨by omega, by omega⟩
    · rw [if_neg hescaped, if_neg hescaped] at hfirst hlast
      exact ⟨by omega, by omega⟩
  rw [readNarrative]
  refine AllFlaws.map (spanRuns_flaws _ (fun _ hopener => by cases hopener) fun text hmem => ?_) _
  exact hmarker _ (mem_of_mem_segments hmem)

/-! ## Lines

  The layout of a directive names all the pieces of its line.  Its columns are lengths of the pieces
  in front, and so the arguments lie in the line. -/

/-- The line is a directive with this keyword and these arguments, laid out with blanks in front of
    its mark, between the two, and behind it all. At least one blank divides the arguments from the
    keyword, if there are any. -/
structure IsLayout (keyword arguments line front gap trail : List Char) : Prop where
  line_eq : line = front ++ directiveMark :: (keyword ++ (gap ++ (arguments ++ trail)))
  frontBlank : ∀ c ∈ front, isBlank c = true
  gapBlank : ∀ c ∈ gap, isBlank c = true
  trailBlank : ∀ c ∈ trail, isBlank c = true
  unbroken : ∀ c ∈ keyword, isBlank c = false
  trimmed : trim arguments = arguments
  divided : arguments ≠ [] → gap ≠ []

/-- Every directive line has a layout, and its columns count the characters of it. -/
theorem Directive.exists_layout {line : List Char} {directive : Directive}
    (h : Directive.ofLine? line = some directive) :
    ∃ front gap trail, IsLayout directive.keyword directive.arguments line front gap trail ∧
      directive.column = front.length + 1 ∧
      directive.argumentColumn = directive.column + 1 + directive.keyword.length + gap.length := by
  have hline : line.takeWhile isBlank ++ trimLeft line = line := List.takeWhile_append_dropWhile
  have hends : trim line ++ (trimLeft line).rtakeWhile isBlank = trimLeft line :=
    List.rdropWhile_append_rtakeWhile
  rw [Directive.ofLine?] at h
  split at h
  next => cases h
  next mark body hbody =>
    split at h
    next hmark =>
      cases h
      dsimp only
      have hkeyword := List.takeWhile_append_dropWhile (p := (!isBlank ·)) (l := body)
      have hword : ∀ c ∈ body.takeWhile (!isBlank ·), isBlank c = false :=
        fun c hc => by simpa using List.mem_takeWhile_imp hc
      have hbreak := List.head?_dropWhile_not (!isBlank ·) body
      generalize body.takeWhile (!isBlank ·) = keyword at hkeyword hword ⊢
      generalize body.dropWhile (!isBlank ·) = rest at hkeyword hbreak ⊢
      have hgap : rest.takeWhile isBlank ++ trimLeft rest = rest :=
        List.takeWhile_append_dropWhile
      have hsuffix : trimLeft rest <:+ trim line := by
        rw [hbody, ← hkeyword]
        exact (List.dropWhile_suffix _).trans
          ((List.suffix_append keyword rest).trans (List.suffix_cons mark _))
      refine ⟨line.takeWhile isBlank, rest.takeWhile isBlank, (trimLeft line).rtakeWhile isBlank,
        ⟨?_, fun _ => List.mem_takeWhile_imp, fun _ => List.mem_takeWhile_imp,
          fun _ => List.mem_rtakeWhile_imp, hword, ?_, ?_⟩, rfl, rfl⟩
      -- The line is put together from its pieces again.
      · calc line = line.takeWhile isBlank ++ trimLeft line := hline.symm
          _ = line.takeWhile isBlank ++ (trim line ++ (trimLeft line).rtakeWhile isBlank) := by
            rw [hends]
          _ = line.takeWhile isBlank ++ (directiveMark :: (keyword ++ (rest.takeWhile isBlank ++
                trimLeft rest)) ++ (trimLeft line).rtakeWhile isBlank) := by
            rw [hgap, hkeyword, hbody, hmark]
          _ = _ := by simp only [List.append_assoc, List.cons_append]
      · rw [trim, trimLeft_eq_self fun _ => isBlank_of_head?_trimLeft]
        exact trimRight_of_suffix hsuffix (trimRight_trimRight _)
      · -- Without a blank behind the keyword there is nothing behind it.
        intro hsome hnone
        rw [hnone, List.nil_append] at hgap
        obtain ⟨c, others, hrest⟩ := List.exists_cons_of_ne_nil hsome
        have hfirst : isBlank c = false := isBlank_of_head?_trimLeft (by rw [hrest]; rfl)
        rw [← hgap, hrest] at hbreak
        simp [hfirst] at hbreak
    next => cases h

/-- The arguments of a directive end its line, apart from blanks, and their column is the one that
    they stand in. -/
theorem Directive.exists_line {line : List Char} {directive : Directive}
    (h : Directive.ofLine? line = some directive) :
    ∃ front trail, line = front ++ directive.arguments ++ trail ∧
      front.length + 1 = directive.argumentColumn ∧ (∀ c ∈ trail, isBlank c = true) ∧
      trim directive.arguments = directive.arguments := by
  obtain ⟨front, gap, trail, hlayout, hcolumn, hargument⟩ := Directive.exists_layout h
  refine ⟨front ++ directiveMark :: (directive.keyword ++ gap), trail, ?_, ?_, hlayout.trailBlank,
    hlayout.trimmed⟩
  · rw [hlayout.line_eq]
    simp only [List.append_assoc, List.cons_append]
  · simp only [List.length_append, List.length_cons]
    omega

/-- A directive begins behind the blanks in front of its line, and the line goes on at least as far
    as its arguments do. -/
theorem Directive.within {line : List Char} {directive : Directive}
    (h : Directive.ofLine? line = some directive) :
    directive.column = indentation line + 1 ∧ directive.column < directive.argumentColumn ∧
      directive.argumentColumn + directive.arguments.length ≤
        indentation line + 1 + (trimLeft line).length := by
  obtain ⟨front, trail, hline, hfront, -, -⟩ := Directive.exists_line h
  have hwhole := indentation_add_length line
  have hlengths := congrArg List.length hline
  rw [List.length_append, List.length_append] at hlengths
  have hbegins : directive.column = indentation line + 1 ∧
      directive.column < directive.argumentColumn := by
    rw [Directive.ofLine?] at h
    split at h
    next => cases h
    next =>
      split at h
      next =>
        cases h
        dsimp only
        exact ⟨rfl, by omega⟩
      next => cases h
  exact ⟨hbegins.1, hbegins.2, by omega⟩

section

variable {grammar : Grammar} {line : List Char}

/-- A flaw at the keyword of a directive is in its line. -/
theorem within_column {directive : Directive} (h : Directive.ofLine? line = some directive) :
    IsWithin (indentation line + 1) (trimLeft line).length directive.column := by
  obtain ⟨hcolumn, hargument, hend⟩ := Directive.within h
  exact ⟨by omega, by omega⟩

/-- So is a flaw at the beginning of its arguments. -/
theorem within_argumentColumn {directive : Directive}
    (h : Directive.ofLine? line = some directive) :
    IsWithin (indentation line + 1) (trimLeft line).length directive.argumentColumn := by
  obtain ⟨hcolumn, hargument, hend⟩ := Directive.within h
  exact ⟨by omega, by omega⟩

/-- What is read from the arguments shows its flaws in the line. -/
theorem flawsIn_arguments {α : Type} {result : Except Flaw α} {directive : Directive}
    (h : Directive.ofLine? line = some directive) {length : Nat}
    (hlength : length ≤ directive.arguments.length)
    (hresult : FlawsIn directive.argumentColumn length result) :
    FlawsIn (indentation line + 1) (trimLeft line).length result := by
  obtain ⟨hcolumn, hargument, hend⟩ := Directive.within h
  exact hresult.mono (by omega) (by omega)

/-- A keyword that is not known shows where the directive begins. -/
theorem keyword?_flaws {directive : Directive} (h : Directive.ofLine? line = some directive) :
    FlawsIn (indentation line + 1) (trimLeft line).length (directive.keyword? grammar) := by
  rw [Directive.keyword?]
  split
  next => exact allFlaws_ok _
  next => exact flawsIn_error rfl (within_column h)

/-- Arguments that are not wanted show where they begin. -/
theorem bare_flaws {directive : Directive} (statement : Statement) :
    FlawsIn directive.argumentColumn directive.arguments.length (directive.bare statement) := by
  rw [Directive.bare]
  split
  next => exact allFlaws_ok _
  next => exact flawsIn_error rfl ⟨Nat.le_refl _, Nat.le_add_right _ _⟩

/-- Whatever the directive, a flaw of its arguments shows in the line. -/
theorem statement_flaws {directive : Directive} (h : Directive.ofLine? line = some directive)
    (keyword : Keyword) :
    FlawsIn (indentation line + 1) (trimLeft line).length (directive.statement keyword) := by
  have hall := Nat.le_refl directive.arguments.length
  cases keyword with
  | block => exact allFlaws_ok _
  | entry => exact allFlaws_ok _
  | endBlock => exact flawsIn_arguments h hall (bare_flaws _)
  | elseBranch => exact flawsIn_arguments h hall (bare_flaws _)
  | closeIf => exact flawsIn_arguments h hall (bare_flaws _)
  | openIf => exact flawsIn_arguments h hall ((readCondition_flaws _ _).map _)
  | option => exact flawsIn_arguments h hall ((readOption_flaws _ _).map _)
  | jump => exact flawsIn_arguments h (Nat.zero_le _) ((readDestination_flaws _ _).map _)
  | verb verb => exact flawsIn_arguments h hall ((readChange_flaws _ _ _).map _)

/-- Inside a block, then, every flaw of a line shows in the line. -/
theorem statement_read_flaws (grammar : Grammar) (line : List Char) :
    FlawsIn (indentation line + 1) (trimLeft line).length (Statement.read grammar line) := by
  rw [Statement.read]
  cases hline : Directive.ofLine? line with
  | none => exact (readNarrative_flaws grammar line).map _
  | some directive =>
    refine (keyword?_flaws hline).bind fun keyword _ => ?_
    cases keyword with
    | none => exact flawsIn_error rfl (within_column hline)
    | some keyword => exact statement_flaws hline keyword

/-- Outside of the blocks it does as well; text that stands there shows at its first character. -/
theorem heading_read_flaws (grammar : Grammar) (line : List Char) :
    FlawsIn (indentation line + 1) (trimLeft line).length (Heading.read grammar line) := by
  rw [Heading.read]
  split
  next => exact allFlaws_ok none
  next =>
    cases hline : Directive.ofLine? line with
    | none => exact flawsIn_error rfl ⟨Nat.le_refl _, Nat.le_add_right _ _⟩
    | some directive =>
      refine (keyword?_flaws hline).bind fun keyword _ => ?_
      split
      next =>
        split
        next => exact allFlaws_ok _
        next => exact flawsIn_error rfl (within_argumentColumn hline)
      next =>
        split
        next => exact allFlaws_ok _
        next => exact flawsIn_error rfl (within_argumentColumn hline)
      next => exact flawsIn_error rfl (within_column hline)

/-- A heading that cannot be taken in shows this at its name. -/
theorem takeHeading_flaws (draft : Draft) (number : Nat) {heading : Heading}
    (h : Announces grammar line heading) :
    FlawsIn (indentation line + 1) (trimLeft line).length (draft.takeHeading number heading) := by
  cases h with
  | block _ hline _ =>
    rw [Draft.takeHeading]
    split
    next => exact flawsIn_error rfl (within_argumentColumn hline.divides)
    next => exact allFlaws_ok _
  | entry _ hline _ =>
    rw [Draft.takeHeading]
    split
    next => exact flawsIn_error rfl (within_argumentColumn hline.divides)
    next => exact allFlaws_ok _

/-- A statement that has no place where it stands shows this at its keyword. -/
theorem takeStatement_flaws (draft : Draft) (number : Nat) (line : List Char) (block : OpenBlock)
    (statement : Statement) :
    FlawsIn (indentation line + 1) (trimLeft line).length
      (draft.takeStatement number line block statement) := by
  have hhere : IsWithin (indentation line + 1) (trimLeft line).length (indentation line + 1) :=
    ⟨Nat.le_refl _, Nat.le_add_right _ _⟩
  rw [Draft.takeStatement.eq_def]
  cases statement with
  | elseBranch =>
    dsimp only
    split
    next => exact flawsIn_error rfl hhere
    next =>
      split
      next => exact flawsIn_error rfl hhere
      next => exact allFlaws_ok _
  | closeIf =>
    dsimp only
    split
    next => exact flawsIn_error rfl hhere
    next => exact allFlaws_ok _
  | endBlock =>
    dsimp only
    split
    next => exact allFlaws_ok _
    next => exact flawsIn_error rfl hhere
  | block => exact flawsIn_error rfl hhere
  | entry => exact flawsIn_error rfl hhere
  | _ => exact allFlaws_ok _

/-- **The flaw of a line shows in this line**: behind the blanks in front of it, and no further on
    than right behind its last character. -/
theorem takeLine_flaws (grammar : Grammar) (draft : Draft) (number : Nat) (line : List Char) :
    FlawsIn (indentation line + 1) (trimLeft line).length
      (draft.takeLine grammar number line) := by
  rw [Draft.takeLine]
  cases draft.current with
  | none =>
    refine (heading_read_flaws grammar line).bind fun heading hread => ?_
    rcases announces_of_read hread with ⟨rfl, -⟩ | ⟨announced, rfl, hannounces⟩
    · exact allFlaws_ok _
    · exact takeHeading_flaws draft number hannounces
  | some block =>
    refine (statement_read_flaws grammar line).bind fun statement _ => ?_
    exact takeStatement_flaws draft number line _ statement

end

end Gamebook.Markup
