/-
  The reader of conditions reads exactly what the grammar of conditions admits.

  The reader descends through the levels of the grammar, and takes what is joined by `and` or by
  `or` in a loop.

  * Sound (`levelsSound`): what it takes is spelled by some phrase, the loops adding to the phrase
    that they have got so far.
  * Complete (`isRead_of_spells`): a level that is spelled is read with a fuel of four for every
    symbol, whatever follows, as long as what follows cannot go on with that level.

  The fuel is what the functions of the reader recurse on, and the two halves need different things
  of it.  For soundness any fuel will do, since running out of it is an error.  For completeness
  there has to be enough of it: from one symbol to the next no more than four calls are nested.

  Together with the fact that tokens spell one phrase at most (`Spells.unique`), the two halves make
  reading and spelling the same.  What the condition of a phrase evaluates to is a matter of the
  grammar alone (`Phrase.evaluate_condition`), so nothing of the reader is left in the result.
-/
import Gamebook.Proofs.ConditionGrammar
import Gamebook.Proofs.ReadNodes

namespace Gamebook.Markup

/-! ## What is read is spelled

  Every level is a first piece of the next tighter level and a loop for the rest.  The loop has what
  was read so far on its left, so what it gives back is spelled by the symbols before it together
  with those that it takes (`GivesSpelled`). -/

/-- The symbols of some tokens. -/
def symbolsOf (tokens : List Token) : List Symbol := tokens.map Token.symbol

@[simp] theorem symbolsOf_nil : symbolsOf [] = [] := rfl

@[simp] theorem symbolsOf_cons (token : Token) (rest : List Token) :
    symbolsOf (token :: rest) = token.symbol :: symbolsOf rest := rfl

@[simp] theorem symbolsOf_append (tokens rest : List Token) :
    symbolsOf (tokens ++ rest) = symbolsOf tokens ++ symbolsOf rest := List.map_append

/-- What was taken from the tokens goes on with `before`, and spells at this level a phrase that
    stands for what was read. -/
def GivesSpelled (level : Level) (before : List Symbol) (tokens : List Token)
    (result : Except Flaw (Condition × List Token)) : Prop :=
  ∀ condition rest, result = .ok (condition, rest) →
    ∃ taken phrase, tokens = taken ++ rest ∧ Spells level (before ++ symbolsOf taken) phrase ∧
      phrase.condition = condition

/-- The next token is the first of them. -/
theorem nextToken_eq_ok {stop : Nat} {expected : Expectation} {tokens rest : List Token}
    {token : Token} (h : nextToken stop expected tokens = .ok (token, rest)) :
    tokens = token :: rest := by
  cases tokens with
  | nil => cases h
  | cons first others => cases h; rfl

/-- A flag stands alone, or is compared with a truth value in one of two ways. -/
theorem readFlagTest_spelled (stop : Nat) (name : String) (tokens : List Token) :
    GivesSpelled .primary [.flag name] tokens (readFlagTest stop name tokens) := by
  intro condition rest h
  rw [readFlagTest.eq_def] at h
  split at h
  next relation text column others =>
    split at h
    next hrelation =>
      rw [bind_eq_ok_iff] at h
      obtain ⟨⟨token, last⟩, htoken, h⟩ := h
      obtain rfl := nextToken_eq_ok htoken
      cases hsymbol : token.symbol with
      | truth value =>
        simp only [hsymbol] at h
        cases h
        refine ⟨[⟨.relation relation, text, column⟩, token], ?_⟩
        rw [Bool.or_eq_true, decide_eq_true_iff, decide_eq_true_iff] at hrelation
        -- The two comparisons that a flag has: with `!=` it is the opposite that is asked for.
        rcases hrelation with rfl | rfl
        · refine ⟨.flagIs name value, rfl, ?_, rfl⟩
          simpa [hsymbol] using Spells.flagIs
        · refine ⟨.flagIsNot name value, rfl, ?_, rfl⟩
          simpa [hsymbol] using Spells.flagIsNot
      | _ => simp [hsymbol] at h
    next => cases h
  next =>
    cases h
    exact ⟨[], .flag name, rfl, .flag, rfl⟩

/-- A counter is compared with a number. -/
theorem readCounterTest_spelled (stop : Nat) (name reference : String) (tokens : List Token) :
    GivesSpelled .primary [.counter name] tokens (readCounterTest stop name reference tokens) := by
  intro condition rest h
  rw [readCounterTest, bind_eq_ok_iff] at h
  obtain ⟨⟨comparison, others⟩, hcomparison, h⟩ := h
  obtain rfl := nextToken_eq_ok hcomparison
  cases hrelation : comparison.symbol with
  | relation relation =>
    simp only [hrelation] at h
    rw [bind_eq_ok_iff] at h
    obtain ⟨⟨number, last⟩, hnumber, h⟩ := h
    obtain rfl := nextToken_eq_ok hnumber
    cases hvalue : number.symbol with
    | integer value =>
      simp only [hvalue] at h
      cases h
      refine ⟨[comparison, number], .counter name relation value, rfl, ?_, rfl⟩
      simpa [hrelation, hvalue] using Spells.counter
    | _ => simp [hvalue] at h
  | _ => simp [hrelation] at h

/-- What the three levels give back with so much fuel is spelled. The loops go on with symbols that
    spell what is on their left. -/
structure LevelsSound (stop fuel : Nat) : Prop where
  disjunction : ∀ tokens, GivesSpelled .disjunction [] tokens (readDisjunction stop fuel tokens)
  disjuncts : ∀ before phrase tokens, Spells .disjunction before phrase →
    GivesSpelled .disjunction before tokens (readMoreDisjuncts stop fuel phrase.condition tokens)
  conjunction : ∀ tokens, GivesSpelled .conjunction [] tokens (readConjunction stop fuel tokens)
  conjuncts : ∀ before phrase tokens, Spells .conjunction before phrase →
    GivesSpelled .conjunction before tokens (readMoreConjuncts stop fuel phrase.condition tokens)
  negation : ∀ tokens, GivesSpelled .negation [] tokens (readNegation stop fuel tokens)

/-- A piece of the next tighter level is taken, after the tokens of `start`, and then the loop takes
    the others. The loop goes on with the piece `join`ed to what was on its left. -/
theorem GivesSpelled.andThen {inner level : Level} {before : List Symbol} {tokens : List Token}
    {first : Except Flaw (Condition × List Token)}
    {more : Condition → List Token → Except Flaw (Condition × List Token)}
    (hfirst : GivesSpelled inner [] tokens first) (start : List Token) (join : Phrase → Phrase)
    (joined : Condition → Condition)
    (hjoin : ∀ symbols phrase, Spells inner symbols phrase →
      Spells level (before ++ (symbolsOf start ++ symbols)) (join phrase))
    (hjoined : ∀ phrase, (join phrase).condition = joined phrase.condition)
    (hmore : ∀ before phrase tokens, Spells level before phrase →
      GivesSpelled level before tokens (more phrase.condition tokens)) :
    GivesSpelled level before (start ++ tokens)
      (first >>= fun read => more (joined read.1) read.2) := by
  intro condition rest h
  rw [bind_eq_ok_iff] at h
  obtain ⟨⟨piece, others⟩, hpiece, h⟩ := h
  -- The tokens that were taken for the piece, and the phrase that they spell.
  obtain ⟨taken, phrase, rfl, hphrase, rfl⟩ := hfirst piece others hpiece
  -- The loop was given a condition; it is that of the joined phrase.
  rw [← hjoined] at h
  obtain ⟨further, whole, rfl, hwhole, rfl⟩ :=
    hmore _ (join phrase) others (hjoin _ phrase hphrase) condition rest h
  -- Those of the start, of the piece and of the loop, one after the other.
  refine ⟨start ++ (taken ++ further), whole, ?_, ?_, rfl⟩
  · simp only [List.append_assoc]
  · simpa only [symbolsOf_append, List.append_assoc, List.nil_append] using hwhole

/-- A negation, if the levels are sound with less fuel: `not` before a negation, a disjunction in
    parentheses, a flag or a counter. -/
theorem readNegation_spelled {stop fuel : Nat} (ih : LevelsSound stop fuel) (tokens : List Token) :
    GivesSpelled .negation [] tokens (readNegation stop (fuel + 1) tokens) := by
  intro condition rest h
  rw [readNegation.eq_def] at h
  split at h
  next heq => cases heq
  next others heq =>
    cases heq
    rw [bind_eq_ok_iff] at h
    obtain ⟨⟨operand, last⟩, hoperand, h⟩ := h
    cases h
    obtain ⟨taken, phrase, rfl, hphrase, rfl⟩ := ih.negation _ _ _ hoperand
    exact ⟨_ :: taken, .not phrase, rfl, .not hphrase, rfl⟩
  next hfuel _ =>
    cases hfuel
    rw [bind_eq_ok_iff] at h
    obtain ⟨⟨token, others⟩, htoken, h⟩ := h
    obtain rfl := nextToken_eq_ok htoken
    cases hsymbol : token.symbol with
    -- What is in the parentheses is followed by a token, which has to close them.
    | openParen =>
      simp only [hsymbol] at h
      rw [bind_eq_ok_iff] at h
      obtain ⟨⟨inner, more⟩, hinner, h⟩ := h
      rw [bind_eq_ok_iff] at h
      obtain ⟨⟨closing, last⟩, hclosing, h⟩ := h
      obtain rfl := nextToken_eq_ok hclosing
      split at h
      next hclose =>
        cases h
        obtain ⟨taken, phrase, rfl, hphrase, rfl⟩ := ih.disjunction _ _ _ hinner
        refine ⟨token :: (taken ++ [closing]), .group phrase, by simp, ?_, rfl⟩
        have hgroup := Spells.primary (.group hphrase)
        rw [← hsymbol, ← hclose] at hgroup
        simpa using hgroup
      next => cases h
    | flag name =>
      simp only [hsymbol] at h
      obtain ⟨taken, phrase, rfl, hphrase, rfl⟩ := readFlagTest_spelled _ _ _ _ _ h
      refine ⟨token :: taken, phrase, rfl, .primary ?_, rfl⟩
      simpa [hsymbol] using hphrase
    | counter name =>
      simp only [hsymbol] at h
      obtain ⟨taken, phrase, rfl, hphrase, rfl⟩ := readCounterTest_spelled _ _ _ _ _ _ h
      refine ⟨token :: taken, phrase, rfl, .primary ?_, rfl⟩
      simpa [hsymbol] using hphrase
    | _ => simp [hsymbol] at h

/-- **All levels are sound**, with any fuel. -/
theorem levelsSound (stop fuel : Nat) : LevelsSound stop fuel := by
  -- Every level calls the others with less fuel, so all five go through the induction together.
  induction fuel with
  | zero => constructor <;> intros <;> intro _ _ h <;> cases h
  | succ fuel ih =>
    constructor
    case disjunction =>
      intro tokens
      exact (ih.conjunction tokens).andThen [] id id
        (fun _ _ => .conjunction) (fun _ => rfl) ih.disjuncts
    case disjuncts =>
      intro before phrase tokens hphrase
      rw [readMoreDisjuncts.eq_def]
      split
      next heq => exact nofun
      next heq =>
        cases heq
        exact (ih.conjunction _).andThen [_] (.or phrase) (.or phrase.condition)
          (fun _ _ => .or hphrase) (fun _ => rfl) ih.disjuncts
      next =>
        intro condition rest h
        cases h
        exact ⟨[], phrase, rfl, by simpa using hphrase, rfl⟩
    case conjunction =>
      intro tokens
      exact (ih.negation tokens).andThen [] id id
        (fun _ _ => .negation) (fun _ => rfl) ih.conjuncts
    case conjuncts =>
      intro before phrase tokens hphrase
      rw [readMoreConjuncts.eq_def]
      split
      next heq => exact nofun
      next heq =>
        cases heq
        exact (ih.negation _).andThen [_] (.and phrase) (.and phrase.condition)
          (fun _ _ => .and hphrase) (fun _ => rfl) ih.conjuncts
      next =>
        intro condition rest h
        cases h
        exact ⟨[], phrase, rfl, by simpa using hphrase, rfl⟩
    case negation => exact readNegation_spelled ih

/-- What was read is spelled. -/
theorem spells_of_readTokens {stop : Nat} {tokens : List Token} {condition : Condition}
    (h : readTokens stop tokens = .ok condition) :
    ∃ phrase, Spells .disjunction (symbolsOf tokens) phrase ∧ phrase.condition = condition := by
  rw [readTokens, bind_eq_ok_iff] at h
  obtain ⟨⟨whole, rest⟩, hwhole, h⟩ := h
  cases rest with
  | nil =>
    cases h
    obtain ⟨taken, phrase, htaken, hphrase, hcondition⟩ :=
      (levelsSound _ _).disjunction _ _ _ hwhole
    rw [List.append_nil] at htaken
    rw [htaken]
    exact ⟨phrase, hphrase, hcondition⟩
  | cons token others => cases h

/-! ## What is spelled is read

  Now the symbols are known and the reader is run on them.  It never has to go back: the next token
  tells in every case which way to go on, provided that nothing follows that could prolong what was
  spelled.  `IsRead` puts this down for each level.  The conclusion for the two upper levels is
  about a loop that is still to be run, because the symbols may turn out to be the left-hand side of
  a longer phrase. -/

/-- The symbol of the next token, if there is one. -/
def next? (tokens : List Token) : Option Symbol := (symbolsOf tokens).head?

/-- The next token is no comparison, so that a flag in front of it stands alone. -/
def EndsTest (rest : List Token) : Prop := ∀ relation, next? rest ≠ some (.relation relation)

/-- A flag that no comparison follows stands alone. -/
theorem readFlagTest_alone {stop : Nat} {name : String} {rest : List Token} (h : EndsTest rest) :
    readFlagTest stop name rest = .ok (.flag name true, rest) := by
  rw [readFlagTest.eq_def]
  split
  next relation _ _ _ => exact absurd rfl (h relation)
  next => rfl

/-- The loop for conjunctions ends where no `and` follows. -/
theorem readMoreConjuncts_end {stop fuel : Nat} {left : Condition} {rest : List Token}
    (h : next? rest ≠ some .and) :
    readMoreConjuncts stop (fuel + 1) left rest = .ok (left, rest) := by
  rw [readMoreConjuncts.eq_def]
  split
  next heq => cases heq
  next => exact absurd rfl h
  next => rfl

/-- The loop for disjunctions ends where no `or` follows. -/
theorem readMoreDisjuncts_end {stop fuel : Nat} {left : Condition} {rest : List Token}
    (h : next? rest ≠ some .or) :
    readMoreDisjuncts stop (fuel + 1) left rest = .ok (left, rest) := by
  rw [readMoreDisjuncts.eq_def]
  split
  next heq => cases heq
  next => exact absurd rfl h
  next => rfl

/-- The tokens, which spell the phrase at a level, are read as its condition, if what follows does
    not go on with it. A conjunction or a disjunction may be gone on with, since more may be joined
    to it: it is read up to a loop that has it on its left, and that still has most of the fuel. -/
def IsRead (stop : Nat) : Level → List Token → Phrase → Prop
  | .primary, tokens, phrase | .negation, tokens, phrase =>
    ∀ fuel rest, 4 * tokens.length ≤ fuel → EndsTest rest →
      readNegation stop fuel (tokens ++ rest) = .ok (phrase.condition, rest)
  | .conjunction, tokens, phrase =>
    ∀ fuel rest, 4 * tokens.length + 1 ≤ fuel → EndsTest rest →
      ∃ left, fuel ≤ left + tokens.length ∧
        readConjunction stop fuel (tokens ++ rest) =
          readMoreConjuncts stop left phrase.condition rest
  | .disjunction, tokens, phrase =>
    ∀ fuel rest, 4 * tokens.length + 2 ≤ fuel → EndsTest rest → next? rest ≠ some .and →
      ∃ left, fuel ≤ left + tokens.length ∧
        readDisjunction stop fuel (tokens ++ rest) =
          readMoreDisjuncts stop left phrase.condition rest

section Complete

variable {stop : Nat} {tokens others : List Token} {phrase left right : Phrase} {text : String}
  {column : Nat}

/-- A conjunction to which nothing is joined is read as it stands. -/
theorem IsRead.whole_conjunction (h : IsRead stop .conjunction tokens phrase) {fuel : Nat}
    {rest : List Token} (hfuel : 4 * tokens.length + 1 ≤ fuel) (htest : EndsTest rest)
    (hand : next? rest ≠ some .and) :
    readConjunction stop fuel (tokens ++ rest) = .ok (phrase.condition, rest) := by
  obtain ⟨spare, hspare, hread⟩ := h fuel rest hfuel htest
  obtain ⟨spare, rfl⟩ : ∃ k, spare = k + 1 := ⟨spare - 1, by omega⟩
  rw [hread, readMoreConjuncts_end hand]

/-- A disjunction to which nothing is joined is read as it stands. -/
theorem IsRead.whole_disjunction (h : IsRead stop .disjunction tokens phrase) {fuel : Nat}
    {rest : List Token} (hfuel : 4 * tokens.length + 2 ≤ fuel) (htest : EndsTest rest)
    (hand : next? rest ≠ some .and) (hor : next? rest ≠ some .or) :
    readDisjunction stop fuel (tokens ++ rest) = .ok (phrase.condition, rest) := by
  obtain ⟨spare, hspare, hread⟩ := h fuel rest hfuel htest hand
  obtain ⟨spare, rfl⟩ : ∃ k, spare = k + 1 := ⟨spare - 1, by omega⟩
  rw [hread, readMoreDisjuncts_end hor]

/-- A closing parenthesis follows the disjunction, and goes on with none of the levels. -/
theorem IsRead.group (h : IsRead stop .disjunction tokens phrase) {ending : Token}
    (hending : ending.symbol = .closeParen) :
    IsRead stop .primary (⟨.openParen, text, column⟩ :: (tokens ++ [ending])) (.group phrase) := by
  intro fuel rest hfuel _
  rw [List.length_cons, List.length_append, List.length_singleton] at hfuel
  obtain ⟨fuel, rfl⟩ : ∃ k, fuel = k + 1 := ⟨fuel - 1, by omega⟩
  -- Behind the disjunction stands the token that closes the group, so neither loop goes on.
  have hnext : next? (ending :: rest) = some .closeParen := congrArg some hending
  have hinner : readDisjunction stop fuel (tokens ++ ending :: rest) =
      .ok (phrase.condition, ending :: rest) := by
    apply h.whole_disjunction
    · omega
    · intro relation hrelation
      rw [hnext] at hrelation
      cases hrelation
    · rw [hnext]; intro h; cases h
    · rw [hnext]; intro h; cases h
  rw [List.cons_append, List.append_assoc, List.singleton_append, readNegation]
  · simp [nextToken, hinner, hending, bind, Except.bind, Phrase.condition]
  · intro _ _ _ hnot; cases hnot

/-- A negation of what is read as a negation. -/
theorem IsRead.not (h : IsRead stop .negation tokens phrase) :
    IsRead stop .negation (⟨.not, text, column⟩ :: tokens) (.not phrase) := by
  intro fuel rest hfuel htest
  rw [List.length_cons] at hfuel
  obtain ⟨fuel, rfl⟩ : ∃ k, fuel = k + 1 := ⟨fuel - 1, by omega⟩
  rw [List.cons_append, readNegation, h fuel rest (by omega) htest]
  rfl

/-- A negation is a conjunction of one. -/
theorem IsRead.conjunction (h : IsRead stop .negation tokens phrase) (hsome : tokens ≠ []) :
    IsRead stop .conjunction tokens phrase := by
  intro fuel rest hfuel htest
  have hlength := List.length_pos_iff.2 hsome
  obtain ⟨fuel, rfl⟩ : ∃ k, fuel = k + 1 := ⟨fuel - 1, by omega⟩
  refine ⟨fuel, by omega, ?_⟩
  rw [readConjunction, h fuel rest (by omega) htest]
  rfl

/-- A conjunction on the left has brought the reader into the loop, which finds `and`, takes the
    negation behind it and goes on. -/
theorem IsRead.and (hleft : IsRead stop .conjunction tokens left)
    (hright : IsRead stop .negation others right) :
    IsRead stop .conjunction (tokens ++ ⟨.and, text, column⟩ :: others) (.and left right) := by
  intro fuel rest hfuel htest
  rw [List.length_append, List.length_cons] at hfuel ⊢
  -- The `and` is no comparison, so whatever is on its left ends there.
  have hstarts : EndsTest (⟨.and, text, column⟩ :: (others ++ rest)) := fun _ => nofun
  obtain ⟨spare, hspare, hread⟩ := hleft fuel _ (by omega) hstarts
  obtain ⟨spare, rfl⟩ : ∃ k, spare = k + 1 := ⟨spare - 1, by omega⟩
  refine ⟨spare, by omega, ?_⟩
  rw [List.append_assoc, List.cons_append, hread, readMoreConjuncts,
    hright spare rest (by omega) htest]
  rfl

/-- A conjunction is a disjunction of one. -/
theorem IsRead.disjunction (h : IsRead stop .conjunction tokens phrase) (hsome : tokens ≠ []) :
    IsRead stop .disjunction tokens phrase := by
  intro fuel rest hfuel htest hand
  have hlength := List.length_pos_iff.2 hsome
  obtain ⟨fuel, rfl⟩ : ∃ k, fuel = k + 1 := ⟨fuel - 1, by omega⟩
  refine ⟨fuel, by omega, ?_⟩
  rw [readDisjunction, h.whole_conjunction (by omega) htest hand]
  rfl

/-- The same one level up. What is on the right is followed by no `and`, so it is taken whole. -/
theorem IsRead.or (hleft : IsRead stop .disjunction tokens left)
    (hright : IsRead stop .conjunction others right) :
    IsRead stop .disjunction (tokens ++ ⟨.or, text, column⟩ :: others) (.or left right) := by
  intro fuel rest hfuel htest hand
  rw [List.length_append, List.length_cons] at hfuel ⊢
  -- Neither is the `or`.
  have hstarts : EndsTest (⟨.or, text, column⟩ :: (others ++ rest)) := fun _ => nofun
  obtain ⟨spare, hspare, hread⟩ := hleft fuel _ (by omega) hstarts nofun
  obtain ⟨spare, rfl⟩ : ∃ k, spare = k + 1 := ⟨spare - 1, by omega⟩
  refine ⟨spare, by omega, ?_⟩
  rw [List.append_assoc, List.cons_append, hread, readMoreDisjuncts,
    hright.whole_conjunction (by omega) htest hand]
  rfl

/-- A flag that stands alone, if nothing that follows compares it. -/
theorem isRead_flag {name : String} :
    IsRead stop .primary [⟨.flag name, text, column⟩] (.flag name) := by
  intro fuel rest hfuel htest
  rw [List.length_singleton] at hfuel
  obtain ⟨fuel, rfl⟩ : ∃ k, fuel = k + 1 := ⟨fuel - 1, by omega⟩
  rw [List.singleton_append, readNegation]
  · exact readFlagTest_alone htest
  · exact nofun

/-- A flag that is compared with a truth value. -/
theorem isRead_flagTest {name : String} {relation : Relation} {mark answer : Token} {value : Bool}
    (hrelation : relation = .equal ∧ phrase = .flagIs name value ∨
      relation = .unequal ∧ phrase = .flagIsNot name value)
    (hmark : mark.symbol = .relation relation) (hanswer : answer.symbol = .truth value) :
    IsRead stop .primary [⟨.flag name, text, column⟩, mark, answer] phrase := by
  intro fuel rest hfuel _
  rw [List.length_cons] at hfuel
  obtain ⟨fuel, rfl⟩ : ∃ k, fuel = k + 1 := ⟨fuel - 1, by omega⟩
  obtain ⟨symbol, written, place⟩ := mark
  cases hmark
  rw [List.cons_append, List.cons_append, List.singleton_append, readNegation]
  · show readFlagTest stop name (⟨.relation relation, written, place⟩ :: answer :: rest) = _
    rcases hrelation with ⟨rfl, rfl⟩ | ⟨rfl, rfl⟩
    · simp [readFlagTest, nextToken, hanswer, bind, Except.bind, Phrase.condition]
    · simp [readFlagTest, nextToken, hanswer, bind, Except.bind, Phrase.condition]
  · intro _ _ _ hnot; cases hnot

/-- A counter that is compared with a number. -/
theorem isRead_counter {name : String} {relation : Relation} {mark number : Token} {value : Int}
    (hmark : mark.symbol = .relation relation) (hnumber : number.symbol = .integer value) :
    IsRead stop .primary [⟨.counter name, text, column⟩, mark, number]
      (.counter name relation value) := by
  intro fuel rest hfuel _
  rw [List.length_cons] at hfuel
  obtain ⟨fuel, rfl⟩ : ∃ k, fuel = k + 1 := ⟨fuel - 1, by omega⟩
  rw [List.cons_append, List.cons_append, List.singleton_append, readNegation]
  · show readCounterTest stop name text (mark :: number :: rest) = _
    simp [readCounterTest, nextToken, hmark, hnumber, bind, Except.bind, Phrase.condition]
  · intro _ _ _ hnot; cases hnot

end Complete

theorem symbolsOf_eq_cons {tokens : List Token} {symbol : Symbol} {symbols : List Symbol}
    (h : symbolsOf tokens = symbol :: symbols) :
    ∃ text column rest, tokens = ⟨symbol, text, column⟩ :: rest ∧ symbolsOf rest = symbols := by
  obtain ⟨⟨first, text, column⟩, rest, rfl, hfirst, hrest⟩ := List.map_eq_cons_iff.1 h
  cases hfirst
  exact ⟨text, column, rest, rfl, hrest⟩

/-- Tokens that are a reference and a comparison of it. -/
theorem symbolsOf_eq_test {tokens : List Token} {reference relation value : Symbol}
    (h : symbolsOf tokens = [reference, relation, value]) :
    ∃ text column mark last, tokens = [⟨reference, text, column⟩, mark, last] ∧
      mark.symbol = relation ∧ last.symbol = value := by
  obtain ⟨text, column, rest, rfl, hrest⟩ := symbolsOf_eq_cons h
  obtain ⟨mark, others, rfl, hmark, hothers⟩ := List.map_eq_cons_iff.1 hrest
  obtain ⟨last, rfl, hlast⟩ := List.map_eq_singleton_iff.1 hothers
  exact ⟨text, column, mark, last, rfl, hmark, hlast⟩

theorem symbolsOf_eq_append {tokens : List Token} {symbols others : List Symbol}
    (h : symbolsOf tokens = symbols ++ others) :
    ∃ front back, tokens = front ++ back ∧ symbolsOf front = symbols ∧ symbolsOf back = others :=
  List.map_eq_append_iff.1 h

theorem Spells.ne_nil {level : Level} {symbols : List Symbol} {phrase : Phrase}
    (h : Spells level symbols phrase) : symbols ≠ [] := by
  induction h with
  | primary _ ih | negation _ ih | conjunction _ ih => exact ih
  | _ => simp

/-- Tokens that spell a phrase are read as its condition, level by level. -/
theorem isRead_of_spells (stop : Nat) {level : Level} {symbols : List Symbol} {phrase : Phrase}
    (h : Spells level symbols phrase) {tokens : List Token} (htokens : symbolsOf tokens = symbols) :
    IsRead stop level tokens phrase := by
  induction h generalizing tokens with
  | flag =>
    obtain ⟨text, column, rest, rfl, hrest⟩ := symbolsOf_eq_cons htokens
    rw [List.map_eq_nil_iff.1 hrest]
    exact isRead_flag
  | flagIs =>
    obtain ⟨text, column, mark, last, rfl, hmark, hlast⟩ := symbolsOf_eq_test htokens
    exact isRead_flagTest (.inl ⟨rfl, rfl⟩) hmark hlast
  | flagIsNot =>
    obtain ⟨text, column, mark, last, rfl, hmark, hlast⟩ := symbolsOf_eq_test htokens
    exact isRead_flagTest (.inr ⟨rfl, rfl⟩) hmark hlast
  | counter =>
    obtain ⟨text, column, mark, last, rfl, hmark, hlast⟩ := symbolsOf_eq_test htokens
    exact isRead_counter hmark hlast
  -- The parentheses are the first token and the last one.
  | group _ ih =>
    obtain ⟨text, column, rest, rfl, hrest⟩ := symbolsOf_eq_cons htokens
    obtain ⟨inner, ending, rfl, hinner, hending⟩ := symbolsOf_eq_append hrest
    obtain ⟨last, rfl, hlast⟩ := List.map_eq_singleton_iff.1 hending
    exact (ih hinner).group hlast
  | primary _ ih => exact ih htokens
  | not _ ih =>
    obtain ⟨text, column, rest, rfl, hrest⟩ := symbolsOf_eq_cons htokens
    exact (ih hrest).not
  -- Going from one level to the next uses one fuel up, and there is a symbol to pay for it.
  | negation h ih =>
    refine (ih htokens).conjunction ?_
    rintro rfl
    exact h.ne_nil htokens.symm
  | and _ _ ihleft ihright =>
    obtain ⟨front, back, rfl, hfront, hback⟩ := symbolsOf_eq_append htokens
    obtain ⟨text, column, rest, rfl, hrest⟩ := symbolsOf_eq_cons hback
    exact (ihleft hfront).and (ihright hrest)
  | conjunction h ih =>
    refine (ih htokens).disjunction ?_
    rintro rfl
    exact h.ne_nil htokens.symm
  | or _ _ ihleft ihright =>
    obtain ⟨front, back, rfl, hfront, hback⟩ := symbolsOf_eq_append htokens
    obtain ⟨text, column, rest, rfl, hrest⟩ := symbolsOf_eq_cons hback
    exact (ihleft hfront).or (ihright hrest)

/-- What is spelled is read. -/
theorem readTokens_of_spells (stop : Nat) {tokens : List Token} {phrase : Phrase}
    (h : Spells .disjunction (symbolsOf tokens) phrase) :
    readTokens stop tokens = .ok phrase.condition := by
  have hread : readDisjunction stop (fuelFor tokens) (tokens ++ []) =
      .ok (phrase.condition, []) := by
    apply (isRead_of_spells stop h rfl).whole_disjunction
    · rw [fuelFor]; omega
    · exact fun _ => nofun
    · exact nofun
    · exact nofun
  rw [List.append_nil] at hread
  rw [readTokens, hread]
  rfl

/-! ## The reader and the grammar

  Both halves, and what the grammar says of the phrase: it is the only one, and it means what its
  condition evaluates to. -/

/-- **The reader reads exactly the conditions of the grammar**: tokens are read as a condition just
    when they spell a phrase that stands for it, and there is a flaw when they spell none. They
    spell no more than one phrase, and in every state its condition evaluates to its truth. -/
theorem readTokens_eq_ok_iff_spells (stop : Nat) (tokens : List Token) :
    (∀ condition, readTokens stop tokens = .ok condition ↔
      ∃ phrase, Spells .disjunction (symbolsOf tokens) phrase ∧ phrase.condition = condition) ∧
    ((¬ ∃ phrase, Spells .disjunction (symbolsOf tokens) phrase) →
      ∃ flaw, readTokens stop tokens = .error flaw) ∧
    ∀ phrase, Spells .disjunction (symbolsOf tokens) phrase →
      (∀ other, Spells .disjunction (symbolsOf tokens) other → other = phrase) ∧
        ∀ state, phrase.condition.evaluate state = .ok (phrase.truth state) := by
  refine ⟨fun condition => ⟨spells_of_readTokens, ?_⟩, fun hnone => ?_,
    fun phrase hphrase => ⟨fun other hother => hother.unique hphrase rfl,
      phrase.evaluate_condition⟩⟩
  · rintro ⟨phrase, hphrase, rfl⟩
    exact readTokens_of_spells stop hphrase
  · cases hread : readTokens stop tokens with
    | error flaw => exact ⟨flaw, rfl⟩
    | ok condition =>
      obtain ⟨phrase, hphrase, -⟩ := spells_of_readTokens hread
      exact absurd ⟨phrase, hphrase⟩ hnone

-- The negation belongs to the first flag alone, and the conjunction is a part of the disjunction.
example : readCondition 0 "not flag:a and flag:b or flag:c".toList =
    .ok (.or (.and (.not (.flag "a" true)) (.flag "b" true)) (.flag "c" true)) := by
  decide +kernel

end Gamebook.Markup
