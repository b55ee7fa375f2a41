/-
  The grammar of conditions.

  1. **Grammar**: a `Phrase` is a condition as it is written, parentheses and both ways of asking
     for a flag included.  `Spells` says which symbols spell a phrase at each of four levels; a
     conjunction has conjunctions on its left and a single negation on its right, so that `and`
     groups to the left, and a disjunction is made the same way of conjunctions.

  2. **Meaning**: `Phrase.truth` is the truth of a phrase as the notation has it, and
     `Phrase.condition` the condition it stands for, in which parentheses are gone and no comparison
     is `!=`.  The condition evaluates to the truth of the phrase (`Phrase.evaluate_condition`).

  3. **One phrase**: no symbols spell two phrases (`Spells.unique`).  The mark that joins two
     phrases has as many parentheses closed as opened behind it (`IsBalanced`), and a mark within
     parentheses has more of them closed (`Encloses`), so there is no second mark that could be the
     joining one.
-/
import Gamebook.Markup.ConditionText

namespace Gamebook.Markup

/-! ## Phrases

  A phrase remembers what a condition forgets: whether there were parentheses, and which of the two
  ways of asking for a flag was used.  That makes it possible to say that symbols spell one phrase
  only, rather than one condition. -/

/-- A condition as it is written. -/
inductive Phrase where
  | flag (name : String)
  | flagIs (name : String) (value : Bool)
  | flagIsNot (name : String) (value : Bool)
  | counter (name : String) (relation : Relation) (value : Int)
  /-- A phrase in parentheses. -/
  | group (inner : Phrase)
  | not (operand : Phrase)
  | and (left right : Phrase)
  | or (left right : Phrase)

/-- Whether two numbers have a relation. -/
def Relation.holds (a b : Int) : Relation → Bool
  | less => decide (a < b)
  | atMost => decide (a ≤ b)
  | equal => decide (a = b)
  | unequal => decide (a ≠ b)
  | atLeast => decide (a ≥ b)
  | greater => decide (a > b)

namespace Phrase

/-- The truth of a phrase in a state. -/
def truth (state : State) : Phrase → Bool
  | flag name => state.flag name
  | flagIs name value => decide (state.flag name = value)
  | flagIsNot name value => decide (state.flag name ≠ value)
  | counter name relation value => relation.holds (state.counter name) value
  | group inner => inner.truth state
  | not operand => !operand.truth state
  | and left right => left.truth state && right.truth state
  | or left right => left.truth state || right.truth state

/-- The condition that a phrase stands for. -/
def condition : Phrase → Condition
  | flag name => .flag name true
  | flagIs name value => .flag name value
  | flagIsNot name value => .flag name !value
  | counter name relation value => relation.condition name value
  | group inner => inner.condition
  | not operand => .not operand.condition
  | and left right => .and left.condition right.condition
  | or left right => .or left.condition right.condition

end Phrase

/-- The condition for a comparison has the truth of that comparison; `!=` is the negation of `==`.
    -/
theorem Relation.evaluate_condition (relation : Relation) (name : String) (value : Int)
    (state : State) :
    (relation.condition name value).evaluate state =
      .ok (relation.holds (state.counter name) value) := by
  cases relation with
  | unequal =>
    show Except.ok (!decide (state.counter name = value)) =
      Except.ok (decide (state.counter name ≠ value))
    rw [decide_not]
  | _ => rfl

/-- The condition of a phrase evaluates to the truth of the phrase. -/
theorem Phrase.evaluate_condition (phrase : Phrase) (state : State) :
    phrase.condition.evaluate state = .ok (phrase.truth state) := by
  induction phrase with
  | flag name =>
    show Except.ok (state.flag name == true) = Except.ok (state.flag name)
    rw [beq_true]
  | flagIs name value => rfl
  | flagIsNot name value =>
    show Except.ok (state.flag name == !value) = Except.ok (decide (state.flag name ≠ value))
    cases state.flag name <;> cases value <;> rfl
  | counter name relation value => exact relation.evaluate_condition name value state
  | group inner ih => exact ih
  | not operand ih => rw [condition, Condition.evaluate, ih]; rfl
  -- The right-hand side is not evaluated where the left-hand side decides.
  | and left right ihleft ihright =>
    rw [condition, Condition.evaluate, ihleft, truth]
    cases left.truth state with
    | false => rfl
    | true => exact ihright
  | or left right ihleft ihright =>
    rw [condition, Condition.evaluate, ihleft, truth]
    cases left.truth state with
    | true => rfl
    | false => exact ihright

/-! ## The grammar

  The levels are those of the usual notation: `not` binds more tightly than `and`, and `and` more
  tightly than `or`.  A phrase of one level is also one of the next, looser level. -/

/-- How tightly a phrase holds together. -/
inductive Level where
  | primary
  | negation
  | conjunction
  | disjunction

/-- The symbols spell the phrase at a level. -/
inductive Spells : Level → List Symbol → Phrase → Prop
  | flag {name : String} : Spells .primary [.flag name] (.flag name)
  | flagIs {name : String} {value : Bool} :
      Spells .primary [.flag name, .relation .equal, .truth value] (.flagIs name value)
  | flagIsNot {name : String} {value : Bool} :
      Spells .primary [.flag name, .relation .unequal, .truth value] (.flagIsNot name value)
  | counter {name : String} {relation : Relation} {value : Int} :
      Spells .primary [.counter name, .relation relation, .integer value]
        (.counter name relation value)
  | group {symbols : List Symbol} {inner : Phrase} (h : Spells .disjunction symbols inner) :
      Spells .primary (.openParen :: (symbols ++ [.closeParen])) (.group inner)
  | primary {symbols : List Symbol} {phrase : Phrase} (h : Spells .primary symbols phrase) :
      Spells .negation symbols phrase
  | not {symbols : List Symbol} {operand : Phrase} (h : Spells .negation symbols operand) :
      Spells .negation (.not :: symbols) (.not operand)
  | negation {symbols : List Symbol} {phrase : Phrase} (h : Spells .negation symbols phrase) :
      Spells .conjunction symbols phrase
  | and {symbols others : List Symbol} {left right : Phrase}
      (hleft : Spells .conjunction symbols left) (hright : Spells .negation others right) :
      Spells .conjunction (symbols ++ .and :: others) (.and left right)
  | conjunction {symbols : List Symbol} {phrase : Phrase}
      (h : Spells .conjunction symbols phrase) : Spells .disjunction symbols phrase
  | or {symbols others : List Symbol} {left right : Phrase}
      (hleft : Spells .disjunction symbols left) (hright : Spells .conjunction others right) :
      Spells .disjunction (symbols ++ .or :: others) (.or left right)

/-! ## One phrase

  Where could two phrases for the same symbols differ? Only in the mark at which they are divided,
  since the symbols in front tell primary phrases and negations apart.  So it is shown that there is
  no choice: behind the mark that divides a conjunction comes a negation, in which `and` occurs
  within parentheses only, and no other `and` has this property. -/

/-- How many more parentheses are opened than closed. -/
def depth : List Symbol → Int
  | [] => 0
  | .openParen :: rest => depth rest + 1
  | .closeParen :: rest => depth rest - 1
  | _ :: rest => depth rest

theorem depth_append (symbols others : List Symbol) :
    depth (symbols ++ others) = depth symbols + depth others := by
  induction symbols with
  | nil => simp [depth]
  | cons symbol rest ih => cases symbol <;> simp [depth, ih] <;> omega

/-- The parentheses match: as many are closed as are opened, and none before it is opened. -/
structure IsBalanced (symbols : List Symbol) : Prop where
  whole : depth symbols = 0
  ending : ∀ last, last <:+ symbols → depth last ≤ 0

/-- The mark stands within parentheses only. -/
def Encloses (mark : Symbol) (symbols : List Symbol) : Prop :=
  ∀ last, mark :: last <:+ symbols → depth last < 0

/-- What joined symbols end with is an ending of the second part, or has all of it. -/
theorem suffix_append_cases {last symbols others : List Symbol} (h : last <:+ symbols ++ others) :
    last <:+ others ∨ ∃ front, front <:+ symbols ∧ last = front ++ others := by
  obtain ⟨before, hbefore⟩ := h
  rcases List.append_eq_append_iff.1 hbefore with ⟨front, hfront, hlast⟩ | ⟨back, -, hothers⟩
  · exact .inr ⟨front, ⟨before, hfront.symm⟩, hlast⟩
  · exact .inl ⟨back, hothers.symm⟩

/-- A mark in joined symbols stands in the one part or in the other, or between the two. -/
theorem mark_suffix_cases {mark between : Symbol} {last symbols others : List Symbol}
    (h : mark :: last <:+ symbols ++ between :: others) :
    (mark :: last <:+ others) ∨ (mark = between ∧ last = others) ∨
      ∃ front, mark :: front <:+ symbols ∧ last = front ++ between :: others := by
  rcases suffix_append_cases h with h | ⟨front, hfront, hlast⟩
  · rcases List.suffix_cons_iff.1 h with h | h
    · obtain ⟨rfl, rfl⟩ := List.cons.inj h
      exact .inr (.inl ⟨rfl, rfl⟩)
    · exact .inl h
  · cases front with
    | nil =>
      obtain ⟨rfl, rfl⟩ := List.cons.inj hlast
      exact .inr (.inl ⟨rfl, rfl⟩)
    | cons first front =>
      obtain ⟨rfl, rfl⟩ := List.cons.inj hlast
      exact .inr (.inr ⟨front, hfront, rfl⟩)

/-- Two balanced parts with a mark between them that is no parenthesis. -/
theorem IsBalanced.join {symbols others : List Symbol} {between : Symbol}
    (h : IsBalanced symbols) (hothers : IsBalanced others) (hbetween : depth [between] = 0) :
    IsBalanced (symbols ++ between :: others) := by
  have hrest : depth (between :: others) = 0 := by
    rw [← List.singleton_append, depth_append, hbetween, hothers.whole]
    rfl
  refine ⟨by rw [depth_append, h.whole, hrest]; rfl, fun last hlast => ?_⟩
  rcases suffix_append_cases hlast with hlast | ⟨front, hfront, rfl⟩
  · rcases List.suffix_cons_iff.1 hlast with rfl | hlast
    · exact Int.le_of_eq hrest
    · exact hothers.ending last hlast
  · rw [depth_append, hrest]
    have := h.ending front hfront
    omega

/-- Parentheses around what is balanced. -/
theorem IsBalanced.group {symbols : List Symbol} (h : IsBalanced symbols) :
    IsBalanced (.openParen :: (symbols ++ [.closeParen])) := by
  have hclose : depth [Symbol.closeParen] = -1 := rfl
  have hwhole : depth (.openParen :: (symbols ++ [.closeParen])) = 0 := by
    rw [depth, depth_append, h.whole, hclose]
    rfl
  refine ⟨hwhole, fun last hlast => ?_⟩
  rcases List.suffix_cons_iff.1 hlast with rfl | hlast
  · exact Int.le_of_eq hwhole
  · rcases suffix_append_cases hlast with hlast | ⟨front, hfront, rfl⟩
    · rcases List.suffix_cons_iff.1 hlast with rfl | hlast
      · decide
      · rw [List.suffix_nil.1 hlast]
        decide
    · rw [depth_append, hclose]
      have := h.ending front hfront
      omega

/-- Symbols without parentheses are balanced. -/
theorem IsBalanced.of_plain {symbols : List Symbol}
    (h : ∀ symbol ∈ symbols, depth [symbol] = 0) : IsBalanced symbols := by
  have hdepth : ∀ symbols : List Symbol, (∀ symbol ∈ symbols, depth [symbol] = 0) →
      depth symbols = 0 := by
    intro symbols
    induction symbols with
    | nil => exact fun _ => rfl
    | cons symbol rest ih =>
      intro h
      obtain ⟨hsymbol, hrest⟩ := List.forall_mem_cons.1 h
      rw [← List.singleton_append, depth_append, hsymbol, ih hrest]
      rfl
  refine ⟨hdepth symbols h, fun last hlast => Int.le_of_eq (hdepth last fun symbol hmem => ?_)⟩
  exact h symbol (hlast.subset hmem)

/-- The symbols of a phrase are balanced. By induction on how they spell it. -/
theorem Spells.isBalanced {level : Level} {symbols : List Symbol} {phrase : Phrase}
    (h : Spells level symbols phrase) : IsBalanced symbols := by
  induction h with
  | flag => exact .of_plain (by simp [depth])
  | flagIs => exact .of_plain (by simp [depth])
  | flagIsNot => exact .of_plain (by simp [depth])
  | counter => exact .of_plain (by simp [depth])
  | group _ ih => exact ih.group
  | primary _ ih | negation _ ih | conjunction _ ih => exact ih
  | @not symbols _ _ ih =>
    -- A negation is joined to nothing by its mark.
    have hnil : IsBalanced [] := .of_plain fun _ hmem => absurd hmem List.not_mem_nil
    show IsBalanced ([] ++ Symbol.not :: symbols)
    exact hnil.join ih rfl
  | and _ _ ihleft ihright => exact ihleft.join ihright rfl
  | or _ _ ihleft ihright => exact ihleft.join ihright rfl

/-- A phrase of this level has the mark within parentheses only. -/
def Level.Keeps : Level → Symbol → Prop
  | .primary, mark | .negation, mark => mark = .and ∨ mark = .or
  | .conjunction, mark => mark = .or
  | .disjunction, _ => False

theorem Encloses.of_not_mem {mark : Symbol} {symbols : List Symbol} (h : mark ∉ symbols) :
    Encloses mark symbols :=
  fun _ hlast => absurd (hlast.subset List.mem_cons_self) h

/-- A mark that is enclosed in both parts, and is not the one between them, is enclosed in the
    whole: what follows it in the first part closes a parenthesis, and the second part closes as
    many as it opens. -/
theorem Encloses.join {mark between : Symbol} {symbols others : List Symbol}
    (h : Encloses mark symbols) (hothers : Encloses mark others) (hne : mark ≠ between)
    (hbetween : depth [between] = 0) (hbalanced : IsBalanced others) :
    Encloses mark (symbols ++ between :: others) := by
  intro last hlast
  rcases mark_suffix_cases hlast with hlast | ⟨heq, -⟩ | ⟨front, hfront, rfl⟩
  · exact hothers last hlast
  · exact absurd heq hne
  · have := h front hfront
    rw [depth_append, ← List.singleton_append, depth_append, hbetween, hbalanced.whole]
    omega

/-- Parentheses around what is balanced enclose every mark in it. -/
theorem IsBalanced.encloses {mark : Symbol} {symbols : List Symbol} (h : IsBalanced symbols)
    (hopen : mark ≠ .openParen) (hclose : mark ≠ .closeParen) :
    Encloses mark (.openParen :: (symbols ++ [.closeParen])) := by
  intro last hlast
  rcases List.suffix_cons_iff.1 hlast with hlast | hlast
  · exact absurd (List.cons.inj hlast).1 hopen
  · rcases mark_suffix_cases hlast with hlast | ⟨heq, -⟩ | ⟨front, hfront, rfl⟩
    · cases List.suffix_nil.1 hlast
    · exact absurd heq hclose
    · have := h.ending front ((List.suffix_cons _ _).trans hfront)
      rw [depth_append, depth, depth]
      omega

/-- A phrase encloses the marks that its level has no room for. By induction on how it is spelled,
    each level having been made of tighter ones. -/
theorem Spells.encloses {level : Level} {symbols : List Symbol} {phrase : Phrase}
    (h : Spells level symbols phrase) {mark : Symbol} (hmark : level.Keeps mark) :
    Encloses mark symbols := by
  induction h with
  | flag | flagIs | flagIsNot | counter =>
    apply Encloses.of_not_mem
    rcases hmark with rfl | rfl <;> simp
  | group h =>
    apply h.isBalanced.encloses
    · rcases hmark with rfl | rfl <;> exact nofun
    · rcases hmark with rfl | rfl <;> exact nofun
  | primary _ ih => exact ih hmark
  | @not symbols _ h ih =>
    have hnil : Encloses mark [] := .of_not_mem List.not_mem_nil
    have hne : mark ≠ .not := by
      rcases hmark with rfl | rfl <;> exact nofun
    exact hnil.join (ih hmark) hne rfl h.isBalanced
  | negation _ ih => exact ih (.inr hmark)
  | and _ hright ihleft ihright =>
    have hne : mark ≠ .and := by
      rintro rfl
      cases hmark
    exact (ihleft hmark).join (ihright (.inr hmark)) hne rfl hright.isBalanced
  | conjunction | or => exact absurd hmark id

/-- What is joined by a mark does not have it within parentheses only. -/
theorem Encloses.ne_joined {mark : Symbol} {symbols right : List Symbol} (h : Encloses mark symbols)
    (left : List Symbol) (hright : IsBalanced right) : left ++ mark :: right ≠ symbols := by
  rintro rfl
  have hlast := h right (List.suffix_append _ _)
  rw [hright.whole] at hlast
  omega

/-- Symbols are divided in one way only at a mark behind which it does not occur outside of
    parentheses. -/
theorem divided_unique {mark : Symbol} {left right left' right' : List Symbol}
    (hright : Encloses mark right) (hright' : Encloses mark right')
    (hbalanced : IsBalanced right) (hbalanced' : IsBalanced right')
    (h : left ++ mark :: right = left' ++ mark :: right') : left = left' ∧ right = right' := by
  have hsuffix : mark :: right <:+ left' ++ mark :: right' := h ▸ List.suffix_append _ _
  rcases mark_suffix_cases hsuffix with ⟨front, hfront⟩ | ⟨-, rfl⟩ | ⟨front, -, hfront⟩
  · exact absurd hfront (hright'.ne_joined front hbalanced)
  · exact ⟨List.append_cancel_right h, rfl⟩
  · exact absurd hfront.symm (hright.ne_joined front hbalanced')

/-- A primary phrase does not begin with a negation. -/
theorem Spells.head_ne_not {symbols : List Symbol} {phrase : Phrase}
    (h : Spells .primary symbols phrase) (rest : List Symbol) : symbols ≠ .not :: rest := by
  cases h <;> simp

/-- **The grammar is unambiguous**: symbols spell one phrase at a level, or none. -/
theorem Spells.unique {level : Level} {symbols others : List Symbol} {phrase other : Phrase}
    (h : Spells level symbols phrase) (hother : Spells level others other)
    (hsame : others = symbols) : phrase = other := by
  -- That the symbols are the same is a hypothesis of its own, since the two phrases might take them
  -- apart in different ways.
  induction h generalizing others other with
  | flag =>
    cases hother <;> cases hsame
    rfl
  | flagIs =>
    cases hother <;> cases hsame
    rfl
  | flagIsNot =>
    cases hother <;> cases hsame
    rfl
  | counter =>
    cases hother <;> cases hsame
    rfl
  | group h ih =>
    cases hother with
    | group hinner =>
      rw [ih hinner (List.append_cancel_right (List.cons.inj hsame).2)]
    | _ => cases hsame
  | primary h ih =>
    cases hother with
    | primary hinner => exact ih hinner hsame
    | not _ => exact absurd hsame.symm (h.head_ne_not _)
  | not h ih =>
    cases hother with
    | primary hinner => exact absurd hsame (hinner.head_ne_not _)
    | not hinner => rw [ih hinner (List.cons.inj hsame).2]
  -- A negation, which has no `and` outside of parentheses, is not divided at one.
  | negation h ih =>
    cases hother with
    | negation hinner => exact ih hinner hsame
    | and hleft hright =>
      exact absurd hsame ((h.encloses (.inl rfl)).ne_joined _ hright.isBalanced)
  | and hleft hright ihleft ihright =>
    cases hother with
    | negation hinner =>
      exact absurd hsame.symm ((hinner.encloses (.inl rfl)).ne_joined _ hright.isBalanced)
    | and hleft' hright' =>
      -- Both are divided at the last `and` outside of parentheses.
      obtain ⟨hfront, hback⟩ := divided_unique (hright'.encloses (.inl rfl))
        (hright.encloses (.inl rfl)) hright'.isBalanced hright.isBalanced hsame
      rw [ihleft hleft' hfront, ihright hright' hback]
  | conjunction h ih =>
    cases hother with
    | conjunction hinner => exact ih hinner hsame
    | or hleft hright =>
      exact absurd hsame ((h.encloses rfl).ne_joined _ hright.isBalanced)
  | or hleft hright ihleft ihright =>
    cases hother with
    | conjunction hinner =>
      exact absurd hsame.symm ((hinner.encloses rfl).ne_joined _ hright.isBalanced)
    | or hleft' hright' =>
      obtain ⟨hfront, hback⟩ := divided_unique (hright'.encloses rfl) (hright.encloses rfl)
        hright'.isBalanced hright.isBalanced hsame
      rw [ihleft hleft' hfront, ihright hright' hback]

end Gamebook.Markup
