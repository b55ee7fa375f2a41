/-
  Readers that take steps for granted: directive lines.

  A directive line is divided as one that has a certain shape, and pieces of it are looked for with
  the column in mind that they are found in: the operand of a state directive, the bracket before
  the keywords of an option, its guard and the condition in it.  Each step is written so that it can
  fail, and shown not to:

  * what stands behind the mark of a line without line breaks is a keyword, blanks and arguments
    (`divide_eq`);
  * the first of the words of a trimmed text begins it, and the second is not found before the
    blanks between them end (`indexOf?_second`);
  * trimming and dividing leave pieces that stand in the text they were taken from, so they are
    found there (`indexOf?_isSome_iff`).

  A narrative line takes its last run for granted only where it has one.  So the readers of changes,
  options and whole lines do just what their counterparts do.

  For each reader there is a definition that differs from its counterpart only in the steps it takes
  for granted, and a lemma that the two are equal.  A reader that is made of others rests on their
  lemmas, so each lapse is excluded once, where it belongs: `endLine_eq` for the last run,
  `divide_eq` for the shape of a line, and `readCounterChange_eq`, `readLabel_eq` and `readGuard_eq`
  for the rest.
-/
import Gamebook.Proofs.GrantedTokens
import Gamebook.Proofs.TextPieces

namespace Gamebook.Text

/-! ## Words

  The second word is looked for in what stands behind the first.  That it is found at all would
  follow from its being a piece of it; that it is found just behind the blanks is needed as well,
  because the column is counted from there. -/

/-- **The second word of a text that is trimmed** is found where the blanks behind the first end. -/
theorem indexOf?_second {text first second : List Char} {others : List (List Char)}
    (htrim : trimLeft text = text) (h : words text = first :: second :: others) :
    indexOf? second (text.drop first.length) =
      some (indentation (text.drop first.length)) := by
  obtain ⟨c, rest, htext, -, rfl, hothers⟩ := words_eq_cons h
  rw [htrim] at htext
  subst htext
  have hdrop : (c :: rest).drop (c :: rest.takeWhile (!isBlank ·)).length =
      rest.dropWhile (!isBlank ·) := by
    rw [List.length_cons, List.drop_succ_cons]
    have hparts := List.takeWhile_append_dropWhile (p := (!isBlank ·)) (l := rest)
    exact (congrArg (List.drop _) hparts.symm).trans List.drop_left
  rw [hdrop]
  -- Behind the first word come blanks, and then the second word, which begins with no blank.
  obtain ⟨d, tail, hgap, hd, rfl, -⟩ := words_eq_cons hothers.symm
  refine indexOf?_indentation hd ?_
  rw [hgap]
  exact List.cons_prefix_cons.2 ⟨rfl, List.takeWhile_prefix _⟩

end Gamebook.Text

namespace Gamebook.Markup.Granted

open Gamebook.Text

/-! ## Changes

  Two steps are taken for granted: that an operand of the form of a number can be turned into one,
  and that the operand is found behind the target. -/

/-- Reads an operand as a number, if it has the form of one. -/
def amount (operand : Operand) : Except (Mishap Flaw) Int :=
  if isNumeral operand.text then toInteger operand.text
  else .error (.flaw (operand.flaw (.invalidAmount (String.ofList operand.text))))

/-- The change of a counter. -/
def readCounterChange (verb : Verb) (name : String) (word : Operand) (operand : Option Operand) :
    Except (Mishap Flaw) StateChange :=
  match verb with
  | .clear => .error (.flaw (word.flaw .flagExpected))
  | .set => do
    match ← operand.mapM amount with
    | some amount => .ok ⟨.setCounter, name, some amount⟩
    | none => .error (.flaw (word.flaw .missingCounterValue))
  | .incr => do
    let amount ← operand.mapM amount
    .ok ⟨.increment, name, some (amount.getD 1)⟩
  | .decr => do
    let amount ← operand.mapM amount
    .ok ⟨.decrement, name, some (amount.getD 1)⟩

/-- The column of the operand, which is looked for behind the target. -/
def operandColumn (column : Nat) (arguments first : List Char) :
    (others : List (List Char)) → Except (Mishap Flaw) Nat
  | [] => .ok column
  | second :: _ => do
    let offset ← require .notFound (indexOf? second (arguments.drop first.length))
    .ok (column + first.length + offset)

/-- Reads the trimmed arguments of a state directive, which begin in column `column`. -/
def readChange (verb : Verb) (column : Nat) (arguments : List Char) :
    Except (Mishap Flaw) StateChange :=
  match words arguments with
  | [] =>
    .error (.flaw
      (Flaw.at column (directiveMark :: verb.text.toList) (.missingTarget verb.text)))
  | first :: others =>
    let word : Operand := ⟨first, column⟩
    match Target.read? first with
    | none => .error (.flaw (word.flaw (.invalidTarget (String.ofList first))))
    | some target => do
      let operandColumn ← operandColumn column arguments first others
      if 1 < others.length then
        .error (.flaw (Flaw.at operandColumn arguments (.tooManyOperands verb.text)))
      else
        let operand := others.head?.map (⟨·, operandColumn⟩)
        match target with
        | .flag name => lapseFree (readFlagChange verb name word operand)
        | .counter name => readCounterChange verb name word operand

/-- An operand has the form of a number just if it can be turned into one. -/
theorem amount_eq (operand : Operand) : amount operand = lapseFree operand.amount := by
  have hread := readInteger?_isSome operand.text
  rw [amount, Operand.amount]
  split
  next hnumeral =>
    obtain ⟨value, hvalue, hinteger⟩ := toInteger_of_isNumeral hnumeral
    rw [hinteger, hvalue]
    rfl
  next hnumeral =>
    have hnone : readInteger? operand.text = none :=
      Option.not_isSome_iff_eq_none.1 fun hsome => hnumeral (hread.symm.trans hsome)
    rw [hnone]
    rfl

/-- The same where the operand may be missing. -/
theorem mapM_amount_eq (operand : Option Operand) :
    operand.mapM amount = lapseFree (operand.mapM Operand.amount) := by
  cases operand with
  | none => rfl
  | some operand =>
    show (amount operand >>= _) = lapseFree (operand.amount >>= _)
    rw [lapseFree_bind, amount_eq]
    rfl

/-- So no change of a counter comes to a lapse, whatever the verb and whether or not there is an
    operand. -/
theorem readCounterChange_eq (verb : Verb) (name : String) (word : Operand)
    (operand : Option Operand) :
    readCounterChange verb name word operand =
      lapseFree (Markup.readCounterChange verb name word operand) := by
  cases verb with
  | clear => rfl
  | set =>
    rw [readCounterChange, Markup.readCounterChange, lapseFree_bind, mapM_amount_eq]
    congr 1
    funext amount
    cases amount <;> rfl
  | incr =>
    rw [readCounterChange, Markup.readCounterChange, lapseFree_bind, mapM_amount_eq]
    rfl
  | decr =>
    rw [readCounterChange, Markup.readCounterChange, lapseFree_bind, mapM_amount_eq]
    rfl

/-- **State directives are read without a lapse.** The arguments are trimmed, so the first word
    begins them, and the operand is found behind it. -/
theorem readChange_eq (verb : Verb) (column : Nat) {arguments : List Char}
    (htrim : trimLeft arguments = arguments) :
    readChange verb column arguments = lapseFree (Markup.readChange verb column arguments) := by
  rw [readChange, Markup.readChange]
  cases hwords : words arguments with
  | nil => rfl
  | cons first others =>
    dsimp only
    cases Target.read? first with
    | none => rfl
    | some target =>
      dsimp only
      -- Without an operand nothing is looked for.
      cases others with
      | nil =>
        cases target with
        | flag name => rfl
        | counter name => exact readCounterChange_eq verb name _ none
      | cons second others =>
        rw [operandColumn, indexOf?_second htrim hwords]
        show (if 1 < (second :: others).length then _ else _) = lapseFree (if _ then _ else _)
        split
        next => rfl
        next =>
          cases target with
          | flag name => rfl
          | counter name => exact readCounterChange_eq verb name _ _

/-! ## Options

  Here three searches are taken for granted: for the bracket before the keywords, for the guard and
  for the condition in the guard.  In each of them what is looked for was cut out of the text in
  which it is looked for. -/

/-- Divides what stands before the arrow into the label and its keywords, which begin at the last
    bracket of a text that holds one. -/
def readLabel (column : Nat) (text : List Char) : Except (Mishap Flaw) (List Char × List String) :=
  let text := trimRight text
  if text.getLast? = some ']' && text.contains '[' then do
    let (label, list) ← require .notFound (splitLast? ['['] text)
    let list := list.dropLast
    lapseFree ((readKeywords list (column + label.length + 1) (splitWhere (· = ',') list)).map
      (label, ·))
  else .ok (text, [])

/-- Reads what follows a destination: the guard is looked for in the text from the destination on,
    and its condition in the guard. -/
def readGuard (column : Nat) (target rest : List Char) :
    Except (Mishap Flaw) (Option Condition) :=
  let guardText := trim rest
  if guardText.isEmpty then .ok none
  else do
    let offset ← require .notFound (indexOf? guardText target)
    let guardColumn := column + offset
    let (keyword, rest) := splitFirst ' ' guardText
    let condition := trim rest
    if keyword ≠ "if".toList || condition.isEmpty then
      .error (.flaw (Flaw.at guardColumn guardText .conditionKeywordExpected))
    else do
      let offset ← require .notFound (indexOf? condition guardText)
      (readCondition (guardColumn + offset) condition).map some

/-- Reads the trimmed arguments of an option, which begin in column `column`. -/
def readOption (column : Nat) (arguments : List Char) : Except (Mishap Flaw) Choice :=
  match splitLast? "->".toList arguments with
  | none => .error (.flaw (Flaw.at column arguments .missingArrow))
  | some (before, after) => do
    let (label, keywords) ← readLabel column before
    let label := trim label
    if label.isEmpty then .error (.flaw (Flaw.at column arguments .emptyLabel))
    else
      let target := trimLeft after
      let targetColumn := column + (arguments.length - target.length)
      let (token, rest) := splitFirst ' ' target
      let destination ← lapseFree (readDestination targetColumn token)
      let guard ← readGuard targetColumn target rest
      .ok { label := String.ofList label, destination, guard, keywords }

/-- The last bracket is looked for only where there is one, so it is found. -/
theorem readLabel_eq (column : Nat) (text : List Char) :
    readLabel column text = lapseFree (Markup.readLabel column text) := by
  have hsplit := splitLast?_isSome '[' (trimRight text)
  rw [readLabel, Markup.readLabel]
  dsimp only
  split
  next hlast =>
    rw [Bool.and_eq_true, decide_eq_true_iff, List.contains_iff_mem] at hlast
    obtain ⟨⟨label, list⟩, hfound⟩ := Option.isSome_iff_exists.1 (hsplit.2 hlast.2)
    rw [hlast.1, hfound]
    rfl
  next hlast =>
    split
    next label list hclosing hfound =>
      refine absurd ?_ hlast
      rw [Bool.and_eq_true, decide_eq_true_iff, List.contains_iff_mem]
      exact ⟨hclosing, hsplit.1 (by rw [hfound]; rfl)⟩
    next => rfl

/-- The guard is what stands behind the destination, trimmed, and the condition is what stands
    behind the first word of the guard, trimmed again; each is a piece of what it was taken from. -/
theorem readGuard_eq (column : Nat) (target : List Char) :
    readGuard column target (splitFirst ' ' target).2 =
      lapseFree (Markup.readGuard column target (splitFirst ' ' target).2) := by
  have hguard : trim (splitFirst ' ' target).2 <:+: target :=
    (trim_isInfix _).trans (splitFirst_isSuffix ' ' target).isInfix
  rw [readGuard, Markup.readGuard]
  dsimp only
  split
  next => rfl
  next =>
    have hcondition : trim (splitFirst ' ' (trim (splitFirst ' ' target).2)).2 <:+:
        trim (splitFirst ' ' target).2 :=
      (trim_isInfix _).trans (splitFirst_isSuffix ' ' _).isInfix
    obtain ⟨offset, hoffset⟩ := Option.isSome_iff_exists.1 (indexOf?_isSome_iff.2 hguard)
    obtain ⟨inner, hinner⟩ := Option.isSome_iff_exists.1 (indexOf?_isSome_iff.2 hcondition)
    rw [hoffset, offsetOf, hoffset, offsetOf, hinner]
    show (if _ then _ else _) = lapseFree (if _ then _ else _)
    split
    next => rfl
    next =>
      rw [lapseFree_map, ← readCondition_eq]
      rfl

/-- **Options are read without a lapse**, for their labels and guards are. -/
theorem readOption_eq (column : Nat) (arguments : List Char) :
    readOption column arguments = lapseFree (Markup.readOption column arguments) := by
  rw [readOption, Markup.readOption]
  cases splitLast? "->".toList arguments with
  | none => rfl
  | some parts =>
    obtain ⟨before, after⟩ := parts
    dsimp only
    rw [lapseFree_bind, readLabel_eq]
    congr 1
    funext parts
    obtain ⟨label, keywords⟩ := parts
    dsimp only
    split
    next => rfl
    next =>
      rw [lapseFree_bind]
      congr 1
      funext destination
      rw [readGuard_eq, lapseFree_bind]
      rfl

/-! ## Narrative

  A line without runs gets an empty run, so there is a last run wherever one is asked for. -/

/-- Makes the last run end its line; a line without runs gets an empty one. -/
def endLine (runs : List TextRun) : Except (Mishap Flaw) (List TextRun) :=
  if runs.isEmpty then .ok [{ content := "" }]
  else do
    let last ← require .noRun runs.getLast?
    .ok (runs.dropLast ++ [{ last with endsLine := true }])

/-- The runs of a narrative line. -/
def readNarrative (grammar : Grammar) (line : List Char) : Except (Mishap Flaw) (List TextRun) := do
  let column := if isEscaped line then 2 else 1
  let (texts, tail) := segments (piecesFrom column 0 (unescape line))
  let runs ← lapseFree (spanRuns grammar none texts tail)
  endLine runs

/-- By induction on the runs: the last of them is the last of all but the first, where there are
    two. -/
theorem endLine_eq (runs : List TextRun) : endLine runs = .ok (Markup.endLine runs) := by
  induction runs with
  | nil => rfl
  | cons run rest ih =>
    cases rest with
    | nil => rfl
    | cons next rest =>
      have hcons : endLine (run :: next :: rest) = (endLine (next :: rest)).map (run :: ·) := by
        show (require .noRun (run :: next :: rest).getLast? >>= _) =
          (require .noRun (next :: rest).getLast? >>= _).map _
        rw [List.getLast?_cons_cons]
        cases (next :: rest).getLast? <;> rfl
      rw [hcons, ih]
      rfl

/-- **Narrative lines are read without a lapse.** -/
theorem readNarrative_eq (grammar : Grammar) (line : List Char) :
    readNarrative grammar line = lapseFree (Markup.readNarrative grammar line) := by
  rw [readNarrative, Markup.readNarrative]
  dsimp only
  rw [lapseFree_map, funext endLine_eq]
  rfl

/-! ## Whole lines

  A line is divided only if it is a directive.  What might fail is that the arguments run to the end
  of the line: they would not if the line held a line feed, and no line of a text does. -/

/-- Divides a directive line: the mark, the characters up to the first blank, the blanks, and all
    that is left, in which no line may end. -/
def divide (line : List Char) : Except (Mishap Flaw) Directive :=
  match trim line with
  | [] => .error (.lapse .undivided)
  | mark :: body =>
    if mark = directiveMark then
      let keyword := body.takeWhile (!isBlank ·)
      let gap := (body.dropWhile (!isBlank ·)).takeWhile isBlank
      let arguments := (body.dropWhile (!isBlank ·)).dropWhile isBlank
      if arguments.contains '\n' then .error (.lapse .undivided)
      else
        .ok
          { column := indentation line + 1
            keyword
            argumentColumn := indentation line + 2 + keyword.length + gap.length
            arguments := trimRight arguments }
    else .error (.lapse .undivided)

/-- **A directive line is divided as it is read**, as long as it is a line. The arguments are
    trimmed once more, which changes nothing: they end the line, and that was trimmed. -/
theorem divide_eq {line : List Char} (hline : '\n' ∉ line) {directive : Directive}
    (h : Directive.ofLine? line = some directive) : divide line = .ok directive := by
  rw [Directive.ofLine?] at h
  cases hbody : trim line with
  | nil =>
    rw [hbody] at h
    cases h
  | cons mark body =>
    rw [hbody] at h
    rw [divide, hbody]
    dsimp only at h ⊢
    by_cases hmark : mark = directiveMark
    · rw [if_pos hmark] at h
      cases h
      have hsuffix : (body.dropWhile (!isBlank ·)).dropWhile isBlank <:+ trim line := by
        rw [hbody]
        exact ((List.dropWhile_suffix _).trans (List.dropWhile_suffix _)).trans
          (List.suffix_cons mark body)
      -- The arguments are a piece of the line, in which no line feed stands.
      have hbreak : ¬ ((body.dropWhile (!isBlank ·)).dropWhile isBlank).contains '\n' = true := by
        intro hmem
        exact hline ((trim_isInfix line).subset (hsuffix.subset (List.contains_iff_mem.1 hmem)))
      rw [if_pos hmark, if_neg hbreak, trimRight_of_suffix hsuffix (trimRight_trimRight _)]
      rfl
    · rw [if_neg hmark] at h
      cases h

/-- The arguments of a directive line have no blanks in front. -/
theorem trimLeft_arguments {line : List Char} {directive : Directive}
    (h : Directive.ofLine? line = some directive) :
    trimLeft directive.arguments = directive.arguments := by
  rw [Directive.ofLine?] at h
  split at h
  next => cases h
  next mark body hbody =>
    split at h
    next =>
      cases h
      exact trimLeft_eq_self fun _ => isBlank_of_head?_trimLeft
    next => cases h

/-- Reads the arguments of a directive inside a block. -/
def statement (directive : Directive) : Keyword → Except (Mishap Flaw) Statement
  | .openIf => (readCondition directive.argumentColumn directive.arguments).map .openIf
  | .option => (readOption directive.argumentColumn directive.arguments).map .option
  | .verb verb => (readChange verb directive.argumentColumn directive.arguments).map .change
  | keyword => lapseFree (directive.statement keyword)

/-- **A directive inside a block is read without a lapse**, whatever its keyword is. -/
theorem statement_eq {directive : Directive}
    (htrim : trimLeft directive.arguments = directive.arguments) (keyword : Keyword) :
    statement directive keyword = lapseFree (directive.statement keyword) := by
  cases keyword with
  | openIf =>
    rw [statement, Directive.statement, lapseFree_map, readCondition_eq]
  | option => rw [statement, Directive.statement, lapseFree_map, readOption_eq]
  | verb verb => rw [statement, Directive.statement, lapseFree_map, readChange_eq verb _ htrim]
  | _ => rfl

end Gamebook.Markup.Granted
