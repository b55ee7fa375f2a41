/-
  Blanks around directives do not matter.

  A directive line is a mark, a keyword and arguments, with blanks in front of the mark, behind the
  keyword, and behind it all.  How many blanks, and which, makes no difference to what the line
  says: only the columns of its flaws are counted from the front of the line.  No draft keeps a
  column, so two files whose directives differ in such blanks are read through the same drafts, line
  by line.

  1. **Layouts** (`IsLayout`, `SameButLayout`): the reader finds the same keyword and the same
     arguments in every layout of a directive, and takes the line for idle in all of them or in
     none, unless blanks belong to the mark of a comment.
  2. **Arguments** (`Alike`): what is read of the arguments of a directive is the same wherever they
     stand, and so is what is wrong with them, apart from the column.
  3. **Lines and files**: so a line takes a draft to the same draft in either layout
     (`takeLine_alike`), and with it all the lines do (`takeLines_alike`).
-/
import Gamebook.Proofs.FlawColumns

namespace Gamebook.Markup

open Gamebook.Text

/-! ## Layouts

  Two lines are layouts of one directive if they have the same mark, keyword and arguments, and
  nothing else but blanks.  The definition says how such lines are written; `sameButLayout_iff` says
  that the reader divides just these alike. -/

/-- The two lines are the same, or are both layouts of one directive. -/
inductive SameButLayout : List Char → List Char → Prop
  | same (line : List Char) : SameButLayout line line
  | directive {keyword arguments line other front gap trail front' gap' trail' : List Char}
      (hline : IsLayout keyword arguments line front gap trail)
      (hother : IsLayout keyword arguments other front' gap' trail') : SameButLayout line other

/-- A text without blanks begins a word with blanks behind it just if it begins the word. -/
theorem isPrefix_append_iff_of_blank {text word rest : List Char}
    (htext : ∀ c ∈ text, isBlank c = false)
    (hrest : ∀ c, rest.head? = some c → isBlank c = true) :
    text <+: word ++ rest ↔ text <+: word := by
  refine ⟨fun h => ?_, fun h => h.trans (List.prefix_append word rest)⟩
  -- The text ends inside the word, or goes on with a blank, which it has none of.
  rcases List.prefix_or_prefix_of_prefix h (List.prefix_append word rest) with hword | ⟨tail, rfl⟩
  · exact hword
  · cases tail with
    | nil => rw [List.append_nil]
    | cons c others =>
      obtain ⟨behind, hbehind⟩ := (List.prefix_append_right_inj word).1 h
      have hblank : isBlank c = true := hrest c (by rw [← hbehind]; rfl)
      have hkept : isBlank c = false := htext c (by simp)
      rw [hkept] at hblank
      cases hblank

section

variable {keyword arguments line front gap trail : List Char}

/-- Of a directive line the mark, the keyword and the arguments are left when it is trimmed, and the
    blanks between them if there are arguments. -/
theorem IsLayout.exists_trim (h : IsLayout keyword arguments line front gap trail) :
    ∃ rest, trim line = directiveMark :: (keyword ++ rest) ∧ trimLeft rest = arguments ∧
      ∀ c, rest.head? = some c → isBlank c = true := by
  have hmark : isBlank directiveMark = false := by decide
  have hwhole : trim line = trim (directiveMark :: (keyword ++ (gap ++ arguments))) := by
    have hbehind :=
      trim_append_blanks h.trailBlank (directiveMark :: (keyword ++ (gap ++ arguments)))
    simp only [List.cons_append, List.append_assoc] at hbehind
    rw [h.line_eq, trim_append_of_blank h.frontBlank, hbehind]
  have hfirst : ∀ {text c}, (directiveMark :: text : List Char).head? = some c →
      isBlank c = false := by
    intro text c hc
    cases hc
    exact hmark
  -- Without arguments the keyword is last, and the blanks behind it are trimmed away, too.
  by_cases hnone : arguments = []
  · subst hnone
    refine ⟨[], ?_, rfl, nofun⟩
    rw [hwhole, List.append_nil, ← List.cons_append, trim_append_blanks h.gapBlank, List.append_nil]
    refine trim_eq_self (fun c => hfirst) fun c hc => ?_
    rcases List.mem_cons.1 (List.mem_of_getLast? hc) with rfl | hmem
    · exact hmark
    · exact h.unbroken c hmem
  · refine ⟨gap ++ arguments, ?_, ?_, ?_⟩
    · rw [hwhole]
      refine trim_eq_self (fun c => hfirst) fun c hc => ?_
      rw [← List.append_assoc, ← List.cons_append, List.getLast?_append_of_ne_nil _ hnone] at hc
      exact isBlank_of_getLast?_trim h.trimmed hc
    -- The arguments are trimmed, so the blanks behind the keyword are all that is in front of them.
    · have hbegin : trimLeft arguments = arguments := by
        refine trimLeft_eq_self fun c hc => ?_
        rw [← h.trimmed] at hc
        exact isBlank_of_head?_trim hc
      rw [trimLeft, List.dropWhile_append_of_pos h.gapBlank]
      exact hbegin
    · intro c hc
      obtain ⟨first, others, hgap⟩ := List.exists_cons_of_ne_nil (h.divided hnone)
      rw [hgap] at hc
      cases hc
      exact h.gapBlank c (hgap ▸ List.mem_cons_self)

/-- **The reader divides a directive alike in every layout of it.** -/
theorem IsLayout.exists_directive (h : IsLayout keyword arguments line front gap trail) :
    ∃ column argumentColumn, Directive.ofLine? line =
      some { column, keyword, argumentColumn, arguments } := by
  obtain ⟨rest, htrim, harguments, hblank⟩ := h.exists_trim
  have hkept : ∀ c ∈ keyword, (!isBlank c) = true := fun c hc => by rw [h.unbroken c hc]; rfl
  -- The keyword ends at the first blank, or with the line.
  have hword : (keyword ++ rest).takeWhile (!isBlank ·) = keyword ∧
      (keyword ++ rest).dropWhile (!isBlank ·) = rest := by
    rw [List.takeWhile_append_of_pos hkept, List.dropWhile_append_of_pos hkept]
    cases rest with
    | nil => exact ⟨List.append_nil keyword, rfl⟩
    | cons c others =>
      have hstop : ¬ (!isBlank c) = true := by simp [hblank c rfl]
      constructor
      · rw [List.takeWhile_cons_of_neg (p := (!isBlank ·)) hstop, List.append_nil]
      · exact List.dropWhile_cons_of_neg hstop
  rw [Directive.ofLine?, htrim]
  simp only [if_pos, hword.1, hword.2, harguments]
  exact ⟨_, _, rfl⟩

/-- What a directive is, apart from where it stands. -/
def Directive.content (directive : Directive) : List Char × List Char :=
  (directive.keyword, directive.arguments)

/-- **Two lines differ in layout at most just if the reader divides them alike.** -/
theorem sameButLayout_iff {line other : List Char} :
    SameButLayout line other ↔ line = other ∨
      ((Directive.ofLine? line).isSome = true ∧
        (Directive.ofLine? line).map Directive.content =
          (Directive.ofLine? other).map Directive.content) := by
  constructor
  · intro h
    cases h with
    | same => exact .inl rfl
    | directive hline hother =>
      obtain ⟨column, argumentColumn, hdivided⟩ := hline.exists_directive
      obtain ⟨otherColumn, otherArgumentColumn, hotherDivided⟩ := hother.exists_directive
      rw [hdivided, hotherDivided]
      exact .inr ⟨rfl, rfl⟩
  · rintro (rfl | ⟨hsome, hcontent⟩)
    · exact .same line
    · obtain ⟨directive, hline⟩ := Option.isSome_iff_exists.1 hsome
      rw [hline] at hcontent
      obtain ⟨found, hother, hsame⟩ := Option.map_eq_some_iff.1 hcontent.symm
      obtain ⟨hkeyword, harguments⟩ := Prod.mk.inj hsame
      obtain ⟨front, gap, trail, hlayout, -, -⟩ := Directive.exists_layout hline
      obtain ⟨front', gap', trail', hotherLayout, -, -⟩ := Directive.exists_layout hother
      rw [hkeyword, harguments] at hotherLayout
      exact .directive hlayout hotherLayout

instance (line other : List Char) : Decidable (SameButLayout line other) :=
  decidable_of_iff _ sameButLayout_iff.symm

/-- If no blank belongs to the mark of a comment, a directive is a comment by its keyword. -/
theorem IsLayout.isIdle_eq (h : IsLayout keyword arguments line front gap trail)
    {grammar : Grammar} (hcomment : ∀ c ∈ grammar.commentPrefix.toList, isBlank c = false) :
    isIdle grammar line = grammar.commentPrefix.toList.isPrefixOf (directiveMark :: keyword) := by
  obtain ⟨rest, htrim, -, hblank⟩ := h.exists_trim
  have hbegins : grammar.commentPrefix.toList <+: (directiveMark :: keyword) ++ rest ↔
      grammar.commentPrefix.toList <+: directiveMark :: keyword :=
    isPrefix_append_iff_of_blank hcomment hblank
  rw [isIdle, htrim, List.isEmpty_cons, Bool.false_or, Bool.eq_iff_iff, List.isPrefixOf_iff_prefix,
    List.isPrefixOf_iff_prefix, ← List.cons_append]
  exact hbegins

end

/-! ## Arguments

  The readers of arguments get a column along with their text, and hand it on to flaws.  None of
  them asks what it is, so each of them does the same for two columns: it is compared with itself,
  branch by branch. -/

variable {α β : Type}

/-- The same was read, or the same is wrong: of two flaws only the columns may differ. -/
inductive Alike : Except Flaw α → Except Flaw α → Prop
  | ok (value : α) : Alike (.ok value) (.ok value)
  | error {problem : Problem} {construct : String} (column other : Nat) :
      Alike (.error ⟨problem, column, construct⟩) (.error ⟨problem, other, construct⟩)

theorem Alike.refl (result : Except Flaw α) : Alike result result := by
  cases result with
  | ok value => exact .ok value
  | error flaw => exact .error flaw.column flaw.column

/-- Steps that do alike for each value do alike one after the other. -/
theorem Alike.bind {result other : Except Flaw α} {next : α → Except Flaw β}
    {following : α → Except Flaw β} (h : Alike result other)
    (hnext : ∀ value, Alike (next value) (following value)) :
    Alike (result >>= next) (other >>= following) := by
  cases h with
  | ok value => exact hnext value
  | error column other => exact .error column other

/-- What is read may be changed, on both sides in the same way. -/
theorem Alike.map {result other : Except Flaw α} (h : Alike result other) (g : α → β) :
    Alike (result.map g) (other.map g) := by
  cases h with
  | ok value => exact .ok (g value)
  | error column other => exact .error column other

/-- A flaw that shows a piece of the line shows the same piece in another column. -/
theorem alike_at (column other : Nat) (construct : List Char) (problem : Problem) :
    Alike (.error (Flaw.at column construct problem) : Except Flaw α)
      (.error (Flaw.at other construct problem)) := .error column other

/-- A condition is read alike in any two columns, for either is the reading in column zero, moved.
    -/
theorem readCondition_alike (column other : Nat) (text : List Char) :
    Alike (readCondition column text) (readCondition other text) := by
  have hcolumn := readCondition_moved 0 column text
  have hother := readCondition_moved 0 other text
  rw [Nat.zero_add] at hcolumn hother
  -- Both columns are compared with the same third one.
  rw [hcolumn, hother]
  cases readCondition 0 text with
  | ok condition => exact .ok condition
  | error flaw => exact .error (flaw.column + column) (flaw.column + other)

theorem readDestination_alike (column other : Nat) (text : List Char) :
    Alike (readDestination column text) (readDestination other text) := by
  rw [readDestination, readDestination]
  dsimp only
  split
  next => exact alike_at ..
  next =>
    split
    next =>
      split
      next => exact alike_at ..
      next =>
        split
        next => exact alike_at ..
        next => exact .ok _
    next =>
      split
      next => exact .ok _
      next => exact alike_at ..

theorem amount_alike (text : List Char) (column other : Nat) :
    Alike (Operand.amount ⟨text, column⟩) (Operand.amount ⟨text, other⟩) := by
  rw [Operand.amount, Operand.amount]
  dsimp only
  split
  next => exact .ok _
  next => exact alike_at ..

section

variable (verb : Verb) (name : String) (word : List Char) (operand : Option (List Char))
  (column other operandColumn otherColumn : Nat)

theorem readFlagChange_alike :
    Alike (readFlagChange verb name ⟨word, column⟩ (operand.map (⟨·, operandColumn⟩)))
      (readFlagChange verb name ⟨word, other⟩ (operand.map (⟨·, otherColumn⟩))) := by
  cases verb with
  | incr => exact alike_at ..
  | decr => exact alike_at ..
  | clear =>
    cases operand with
    | none => exact .ok _
    | some text => exact alike_at ..
  | set =>
    cases operand with
    | none => exact .ok _
    | some text =>
      simp only [Option.map_some, readFlagChange]
      split
      next => exact .ok _
      next =>
        split
        next => exact .ok _
        next => exact alike_at ..

theorem readCounterChange_alike :
    Alike (readCounterChange verb name ⟨word, column⟩ (operand.map (⟨·, operandColumn⟩)))
      (readCounterChange verb name ⟨word, other⟩ (operand.map (⟨·, otherColumn⟩))) := by
  have hamount : Alike ((operand.map (⟨·, operandColumn⟩)).mapM Operand.amount)
      ((operand.map (⟨·, otherColumn⟩)).mapM Operand.amount) := by
    cases operand with
    | none => exact .ok none
    | some text => exact (amount_alike text operandColumn otherColumn).map some
  cases verb with
  | clear => exact alike_at ..
  | incr => exact hamount.bind fun _ => .ok _
  | decr => exact hamount.bind fun _ => .ok _
  | set =>
    refine hamount.bind fun amount => ?_
    cases amount with
    | none => exact alike_at ..
    | some amount => exact .ok _

end

theorem readChange_alike (verb : Verb) (column other : Nat) (arguments : List Char) :
    Alike (readChange verb column arguments) (readChange verb other arguments) := by
  rw [readChange, readChange]
  cases words arguments with
  | nil => exact alike_at ..
  | cons first others =>
    dsimp only
    -- Which column the operand has depends on that of the target, but neither is looked at.
    cases Target.read? first with
    | none => exact alike_at ..
    | some target =>
      dsimp only
      split
      next => exact alike_at ..
      next =>
        cases target with
        | flag name => exact readFlagChange_alike ..
        | counter name => exact readCounterChange_alike ..

theorem readKeywords_alike (list : List Char) (column other : Nat) (parts : List (List Char)) :
    Alike (readKeywords list column parts) (readKeywords list other parts) := by
  induction parts generalizing column other with
  | nil => exact .ok []
  | cons part rest ih =>
    rw [readKeywords, readKeywords]
    split
    next => exact alike_at ..
    next =>
      split
      next => exact alike_at ..
      next => exact (ih _ _).map _

theorem readLabel_alike (column other : Nat) (text : List Char) :
    Alike (readLabel column text) (readLabel other text) := by
  rw [readLabel, readLabel]
  split
  next => exact (readKeywords_alike ..).map _
  next => exact .ok _

theorem readGuard_alike (column other : Nat) (target rest : List Char) :
    Alike (readGuard column target rest) (readGuard other target rest) := by
  rw [readGuard, readGuard]
  dsimp only
  split
  next => exact .ok none
  next =>
    split
    next => exact alike_at ..
    next => exact (readCondition_alike ..).map some

theorem readOption_alike (column other : Nat) (arguments : List Char) :
    Alike (readOption column arguments) (readOption other arguments) := by
  rw [readOption, readOption]
  cases splitLast? "->".toList arguments with
  | none => exact alike_at ..
  | some parts =>
    -- The label with its keywords, the destination and the guard are read one after the other.
    refine (readLabel_alike column other parts.1).bind fun labelled => ?_
    dsimp only
    split
    next => exact alike_at ..
    next =>
      refine (readDestination_alike ..).bind fun destination => ?_
      exact (readGuard_alike ..).bind fun guard => .ok _

section

variable (written arguments : List Char) (column other argumentColumn otherArgumentColumn : Nat)

theorem keyword?_alike (grammar : Grammar) :
    Alike (Directive.keyword? grammar ⟨column, written, argumentColumn, arguments⟩)
      (Directive.keyword? grammar ⟨other, written, otherArgumentColumn, arguments⟩) := by
  rw [Directive.keyword?, Directive.keyword?]
  dsimp only
  split
  next => exact .ok _
  next => exact alike_at ..

/-- **What is read of a directive is the same wherever its arguments stand.** -/
theorem statement_alike (keyword : Keyword) :
    Alike (Directive.statement ⟨column, written, argumentColumn, arguments⟩ keyword)
      (Directive.statement ⟨other, written, otherArgumentColumn, arguments⟩ keyword) := by
  have hbare : ∀ statement,
      Alike (Directive.bare ⟨column, written, argumentColumn, arguments⟩ statement)
        (Directive.bare ⟨other, written, otherArgumentColumn, arguments⟩ statement) := by
    intro statement
    rw [Directive.bare, Directive.bare]
    dsimp only
    split
    next => exact .ok statement
    next => exact alike_at ..
  cases keyword with
  | block => exact .ok _
  | entry => exact .ok _
  | endBlock => exact hbare _
  | elseBranch => exact hbare _
  | closeIf => exact hbare _
  | openIf => exact (readCondition_alike ..).map _
  | option => exact (readOption_alike ..).map _
  | jump => exact (readDestination_alike ..).map _
  | verb verb => exact (readChange_alike ..).map _

/-- A heading is taken in, or comes a second time, wherever it stands. -/
theorem takeHeading_alike (draft : Draft) (number : Nat) {heading : Directive → Heading}
    {name : String} (hheading : heading = .block name ∨ heading = .entry name) :
    Alike (draft.takeHeading number (heading ⟨column, written, argumentColumn, arguments⟩))
      (draft.takeHeading number (heading ⟨other, written, otherArgumentColumn, arguments⟩)) := by
  rcases hheading with rfl | rfl <;>
  · rw [Draft.takeHeading, Draft.takeHeading]
    split
    next => exact alike_at ..
    next => exact .ok _

end

/-! ## Lines

  Outside of a block a line is looked at for three things: whether it is idle, whether its keyword
  is admitted and is that of a heading, and whether its name is one.  Inside of a block there are
  the arguments as well.  The draft is the same on both sides throughout. -/

section

variable {grammar : Grammar} {line other : List Char}

/-- A line inside a block says the same in either layout. -/
theorem statement_read_alike (h : SameButLayout line other) :
    Alike (Statement.read grammar line) (Statement.read grammar other) := by
  cases h with
  | same => exact .refl _
  | directive hline hother =>
    obtain ⟨column, argumentColumn, hdivided⟩ := hline.exists_directive
    obtain ⟨otherColumn, otherArgumentColumn, hotherDivided⟩ := hother.exists_directive
    rw [Statement.read, Statement.read, hdivided, hotherDivided]
    dsimp only
    refine (keyword?_alike ..).bind fun keyword => ?_
    cases keyword with
    | none => exact alike_at ..
    | some keyword => exact statement_alike ..

/-- A heading is taken in alike in either layout. -/
theorem heading_alike (hcomment : ∀ c ∈ grammar.commentPrefix.toList, isBlank c = false)
    (h : SameButLayout line other) (draft : Draft) (number : Nat)
    (houtside : draft.current = none) :
    Alike (draft.takeLine grammar number line) (draft.takeLine grammar number other) := by
  cases h with
  | same => exact .refl _
  | @directive written arguments _ _ _ _ _ _ _ _ hline hother =>
    obtain ⟨column, argumentColumn, hdivided⟩ := hline.exists_directive
    obtain ⟨otherColumn, otherArgumentColumn, hotherDivided⟩ := hother.exists_directive
    rw [Draft.takeLine, Draft.takeLine, houtside]
    dsimp only
    rw [Heading.read, Heading.read, hline.isIdle_eq hcomment, hother.isIdle_eq hcomment, hdivided,
      hotherDivided]
    split
    next => exact .ok draft
    next =>
      dsimp only
      rw [bind_assoc, bind_assoc]
      refine (keyword?_alike ..).bind fun keyword => ?_
      -- The name is checked after the keyword, so both come to the same flaw if there is one.
      by_cases hname : isName arguments = true
      · simp only [if_pos hname]
        split
        next => exact takeHeading_alike _ _ _ _ _ _ draft number (.inl rfl)
        next => exact takeHeading_alike _ _ _ _ _ _ draft number (.inr rfl)
        next => exact alike_at ..
      · simp only [if_neg hname]
        split <;> exact alike_at ..

/-- A statement finds its place, or does not, wherever its line begins. -/
theorem takeStatement_alike (draft : Draft) (number : Nat) (line other : List Char)
    (block : OpenBlock) (statement : Statement) :
    Alike (draft.takeStatement number line block statement)
      (draft.takeStatement number other block statement) := by
  rw [Draft.takeStatement.eq_def, Draft.takeStatement.eq_def]
  cases statement with
  | elseBranch =>
    dsimp only
    split
    next => exact alike_at ..
    next =>
      split
      next => exact alike_at ..
      next => exact .ok _
  | closeIf =>
    dsimp only
    split
    next => exact alike_at ..
    next => exact .ok _
  | endBlock =>
    dsimp only
    split
    next => exact .ok _
    next => exact alike_at ..
  | block => exact alike_at ..
  | entry => exact alike_at ..
  | _ => exact .ok _

/-- **A line takes a draft to the same draft in either layout**, or the same is wrong with it. -/
theorem takeLine_alike (hcomment : ∀ c ∈ grammar.commentPrefix.toList, isBlank c = false)
    (h : SameButLayout line other) (draft : Draft) (number : Nat) :
    Alike (draft.takeLine grammar number line) (draft.takeLine grammar number other) := by
  cases hcurrent : draft.current with
  | none => exact heading_alike hcomment h draft number hcurrent
  | some block =>
    rw [Draft.takeLine, Draft.takeLine, hcurrent]
    exact (statement_read_alike h).bind fun statement => takeStatement_alike ..

end

/-! ## Files

  The first line that is refused ends the reading on both sides, with the same number and the same
  flaw but for the column.  What is told of at the end of the file comes from the draft, which is
  the same on both sides, and so is even its column. -/

/-- Lines take a draft to the same draft whatever their layout, or the same is wrong in a line of
    the same number. -/
theorem takeLines_alike {grammar : Grammar}
    (hcomment : ∀ c ∈ grammar.commentPrefix.toList, isBlank c = false)
    {lines others : List (List Char)} (h : List.Forall₂ SameButLayout lines others) (draft : Draft)
    (first : Nat) :
    (∃ next, draft.takeLines grammar first lines = .ok next ∧
      draft.takeLines grammar first others = .ok next) ∨
    ∃ number flaw column, draft.takeLines grammar first lines = .error (number, flaw) ∧
      draft.takeLines grammar first others = .error (number, { flaw with column }) := by
  induction h generalizing draft first with
  | nil => exact .inl ⟨draft, rfl, rfl⟩
  | @cons line other lines others hline _ ih =>
    have hstep := takeLine_alike hcomment hline draft first
    rw [Draft.takeLines, Draft.takeLines]
    generalize draft.takeLine grammar first line = result at hstep ⊢
    generalize draft.takeLine grammar first other = otherResult at hstep ⊢
    -- Both lines lead to the same draft, or both are refused.
    cases hstep with
    | ok next => exact ih next (first + 1)
    | error column other => exact .inr ⟨first, _, other, rfl, rfl⟩

/-- **Blanks around directives do not matter.** Let no blank belong to the mark of a comment, and
    let the lines of two texts differ in nothing but the layout of directives. Then both texts are
    read as the same story, or both are refused with the same error, apart from its column. -/
theorem readStory_of_sameButLayout {grammar : Grammar}
    (hcomment : ∀ c ∈ grammar.commentPrefix.toList, isBlank c = false) {text other : String}
    (h : List.Forall₂ SameButLayout (linesOf text.toList) (linesOf other.toList))
    (fileId : String) :
    (∃ story, readStory grammar fileId text = .ok story ∧
      readStory grammar fileId other = .ok story) ∨
    ∃ error column, readStory grammar fileId text = .error error ∧
      readStory grammar fileId other =
        .error { error with flaw := { error.flaw with column } } := by
  rcases takeLines_alike hcomment h {} 1 with
    ⟨draft, hdraft, hother⟩ | ⟨number, flaw, column, hflaw, hother⟩
  -- The draft is the same, so the same story is made of it, or the same is wrong in the end.
  · have hsame : readStory grammar fileId other = readStory grammar fileId text := by
      rw [readStory, readStory, readLines, readLines, hdraft, hother]
    rw [hsame]
    cases readStory grammar fileId text with
    | ok story => exact .inl ⟨story, rfl, rfl⟩
    | error error => exact .inr ⟨error, error.flaw.column, rfl, rfl⟩
  · rw [readStory, readStory, readLines, readLines, hflaw, hother]
    exact .inr ⟨_, column, rfl, rfl⟩

/-- A block with an option, as one would write it. -/
def ledgeText : String := "@block ledge\n  Dark.\n@option Go on -> ledge if flag:lit\n@end\n"

/-- The same block with other blanks around its directives. -/
def looseLedgeText : String :=
  "\t@block   ledge \n  Dark.\n @option\tGo on -> ledge if flag:lit\n@end  \n"

/-- A jump that leads nowhere. -/
def chasmText : String := "@block chasm\n@jump -\n"

/-- The same jump, further to the right. -/
def looseChasmText : String := "@block chasm\n  @jump  -\n"

theorem readStory_of_sameButLayout_ledge :
    (∀ c ∈ ({} : Grammar).commentPrefix.toList, isBlank c = false) ∧
    List.Forall₂ SameButLayout (linesOf ledgeText.toList) (linesOf looseLedgeText.toList) ∧
    (∃ story, readStory {} "cave" ledgeText = .ok story ∧
      readStory {} "cave" looseLedgeText = .ok story) ∧
    List.Forall₂ SameButLayout (linesOf chasmText.toList) (linesOf looseChasmText.toList) ∧
    ∃ error column, readStory {} "cave" chasmText = .error error ∧
      readStory {} "cave" looseChasmText =
        .error { error with flaw := { error.flaw with column } } ∧
      error.flaw.column = 7 ∧ column = 10 := by
  have hcomment : ∀ c ∈ ({} : Grammar).commentPrefix.toList, isBlank c = false := by
    have hall : ({} : Grammar).commentPrefix.toList.all (!isBlank ·) = true := by decide +kernel
    simpa using hall
  have hledge : List.Forall₂ SameButLayout (linesOf ledgeText.toList)
      (linesOf looseLedgeText.toList) := by decide +kernel
  have hchasm : List.Forall₂ SameButLayout (linesOf chasmText.toList)
      (linesOf looseChasmText.toList) := by decide +kernel
  have hread : readStory {} "cave" chasmText =
      .error ⟨"cave", 2, ⟨.invalidDestination "-", 7, "-"⟩⟩ := by decide +kernel
  have hloose : readStory {} "cave" looseChasmText =
      .error ⟨"cave", 2, ⟨.invalidDestination "-", 10, "-"⟩⟩ := by decide +kernel
  refine ⟨hcomment, hledge, ?_, hchasm, ?_⟩
  · rcases readStory_of_sameButLayout hcomment hledge "cave" with hboth | ⟨error, -, herror, -⟩
    · exact hboth
    · have hok : (readStory {} "cave" ledgeText).isOk = true := by decide +kernel
      rw [herror] at hok
      cases hok
  · rcases readStory_of_sameButLayout hcomment hchasm "cave" with
      ⟨story, hstory, -⟩ | ⟨error, column, herror, hother⟩
    · rw [hread] at hstory
      cases hstory
    · refine ⟨error, column, herror, hother, ?_, ?_⟩
      · rw [hread] at herror
        cases herror
        rfl
      · rw [hloose] at hother
        have hcolumn := congrArg (fun error : ParseError => error.flaw.column)
          (Except.error.inj hother)
        exact hcolumn.symm

end Gamebook.Markup
