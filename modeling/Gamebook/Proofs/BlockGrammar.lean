/-
  The grammar of story files, apart from the reader.

  The reader goes over the lines once and keeps what is open.  Here a story file is described as a
  tree of lines instead: a file is made of idle lines, declarations of the entry block and blocks, a
  block of items between two lines, an item is a single line, a row of options, or a conditional
  whose branches are made of items again.

  * `Says grammar line statement`: what one line inside a block says, by the reader of its kind.
  * `Items grammar lines nodes`: lines that are the items of a block or a branch, and their nodes.
  * `Parts grammar number lines blocks entries`: lines that are a whole file.
  * `IsStory grammar fileId lines story`: the story that the lines of a file are.

  Only single lines are tied to the reader here (`read_eq_ok_iff`, `announces_of_read` and
  `heading_read_of_announces`).

  The number of a line is a part of the grammar of files, because a block knows where it begins;
  inside of blocks it is not, since no node keeps it.  That two rows of options next to each other
  are one row is said by a condition on what follows a row (`BeginsWithOption`), and it is what
  makes the nodes of some lines unique.
-/
import Gamebook.Markup.Document
import Mathlib.Data.List.Forall2

namespace Gamebook.Markup

open Gamebook.Text

/-! ## Lines inside a block

  A directive has its keyword, which the grammar has to admit, and arguments.  The readers of
  arguments are taken as they are here; what they accept is told in modules of their own. -/

/-- The line is a directive with this keyword, which the grammar admits. -/
structure IsDirective (grammar : Grammar) (line : List Char) (keyword : Keyword)
    (directive : Directive) : Prop where
  divides : Directive.ofLine? line = some directive
  keyword_eq : directive.keyword = keyword.text.toList
  admitted : keyword.text ∈ grammar.keywords

/-- A spelling stands for the keyword that is spelled so. -/
theorem Keyword.ofText?_eq_some_iff {spelling : String} {keyword : Keyword} :
    Keyword.ofText? spelling = some keyword ↔ keyword.text = spelling := by
  constructor
  · intro h
    have hfound := List.find?_some h
    exact of_decide_eq_true hfound
  · rintro rfl
    cases keyword with
    | verb verb => cases verb <;> decide
    | _ => decide

/-- The keyword of a directive line, by the reader, is the one that it is a directive with. -/
theorem keyword?_eq_some_iff {grammar : Grammar} {line : List Char} {directive : Directive}
    {keyword : Keyword} (hline : Directive.ofLine? line = some directive) :
    directive.keyword? grammar = .ok (some keyword) ↔
      IsDirective grammar line keyword directive := by
  have hspell : keyword.text = String.ofList directive.keyword ↔
      directive.keyword = keyword.text.toList := by
    constructor
    · intro h; rw [h, String.toList_ofList]
    · intro h; rw [h, String.ofList_toList]
  rw [Directive.keyword?]
  constructor
  · intro h
    split at h
    next hmem =>
      have hword := Keyword.ofText?_eq_some_iff.1 (Except.ok.inj h)
      exact ⟨hline, hspell.1 hword, by rw [hword]; exact List.contains_iff_mem.1 hmem⟩
    next => cases h
  · rintro ⟨-, hkeyword, hmem⟩
    have hword := hspell.2 hkeyword
    rw [← hword, if_pos (List.contains_iff_mem.2 hmem), Keyword.ofText?_eq_some_iff.2 rfl]

/-- A directive is read by the reader of its kind. -/
theorem IsDirective.read_eq {grammar : Grammar} {line : List Char} {keyword : Keyword}
    {directive : Directive} (h : IsDirective grammar line keyword directive) :
    Statement.read grammar line = directive.statement keyword := by
  rw [Statement.read, h.divides]
  simp only [(keyword?_eq_some_iff h.divides).2 h, bind, Except.bind]

/-- What a line inside a block says: a narrative line is any that is no directive, and every
    directive has arguments that the reader of its kind accepts, or none at all. -/
inductive Says (grammar : Grammar) (line : List Char) : Statement → Prop
  | narrative {runs : List TextRun} (hline : Directive.ofLine? line = none)
      (hread : readNarrative grammar line = .ok runs) : Says grammar line (.narrative runs)
  | option {directive : Directive} {choice : Choice}
      (hline : IsDirective grammar line .option directive)
      (hread : readOption directive.argumentColumn directive.arguments = .ok choice) :
      Says grammar line (.option choice)
  | change {directive : Directive} {verb : Verb} {change : StateChange}
      (hline : IsDirective grammar line (.verb verb) directive)
      (hread : readChange verb directive.argumentColumn directive.arguments = .ok change) :
      Says grammar line (.change change)
  | jump {directive : Directive} {destination : Destination}
      (hline : IsDirective grammar line .jump directive)
      (hread : readDestination directive.argumentColumn directive.arguments = .ok destination) :
      Says grammar line (.jump destination)
  | openIf {directive : Directive} {condition : Condition}
      (hline : IsDirective grammar line .openIf directive)
      (hread : readCondition directive.argumentColumn directive.arguments = .ok condition) :
      Says grammar line (.openIf condition)
  | elseBranch {directive : Directive} (hline : IsDirective grammar line .elseBranch directive)
      (hbare : directive.arguments = []) : Says grammar line .elseBranch
  | closeIf {directive : Directive} (hline : IsDirective grammar line .closeIf directive)
      (hbare : directive.arguments = []) : Says grammar line .closeIf
  | endBlock {directive : Directive} (hline : IsDirective grammar line .endBlock directive)
      (hbare : directive.arguments = []) : Says grammar line .endBlock
  | block {directive : Directive} (hline : IsDirective grammar line .block directive) :
      Says grammar line .block
  | entry {directive : Directive} (hline : IsDirective grammar line .entry directive) :
      Says grammar line .entry

/-- Arguments that are not wanted are not there. -/
theorem bare_eq_ok_iff {directive : Directive} {statement read : Statement} :
    directive.bare statement = .ok read ↔ directive.arguments = [] ∧ statement = read := by
  rw [Directive.bare]
  split
  next h => exact ⟨fun hok => ⟨List.isEmpty_iff.1 h, Except.ok.inj hok⟩, fun hok => by rw [hok.2]⟩
  next h => exact ⟨nofun, fun hok => absurd (List.isEmpty_iff.2 hok.1) h⟩

/-- A value that was changed comes from a value. -/
theorem map_eq_ok_iff {ε α β : Type} {f : α → β} {result : Except ε α} {value : β} :
    result.map f = .ok value ↔ ∃ inner, result = .ok inner ∧ f inner = value := by
  cases result with
  | error e => exact ⟨nofun, nofun⟩
  | ok inner =>
    constructor
    · intro h
      exact ⟨inner, rfl, Except.ok.inj h⟩
    · rintro ⟨other, h, rfl⟩
      rw [Except.ok.inj h]
      rfl

/-- What a directive says is what its arguments are read as. -/
theorem says_of_statement {grammar : Grammar} {line : List Char} {directive : Directive}
    {keyword : Keyword} {statement : Statement}
    (hline : IsDirective grammar line keyword directive)
    (hread : directive.statement keyword = .ok statement) : Says grammar line statement := by
  cases keyword with
  | block => cases hread; exact .block hline
  | entry => cases hread; exact .entry hline
  | endBlock =>
    obtain ⟨hbare, rfl⟩ := bare_eq_ok_iff.1 hread
    exact .endBlock hline hbare
  | elseBranch =>
    obtain ⟨hbare, rfl⟩ := bare_eq_ok_iff.1 hread
    exact .elseBranch hline hbare
  | closeIf =>
    obtain ⟨hbare, rfl⟩ := bare_eq_ok_iff.1 hread
    exact .closeIf hline hbare
  | openIf =>
    obtain ⟨condition, haccepted, rfl⟩ := map_eq_ok_iff.1 hread
    exact .openIf hline haccepted
  | option =>
    obtain ⟨choice, haccepted, rfl⟩ := map_eq_ok_iff.1 hread
    exact .option hline haccepted
  | jump =>
    obtain ⟨destination, haccepted, rfl⟩ := map_eq_ok_iff.1 hread
    exact .jump hline haccepted
  | verb verb =>
    obtain ⟨change, haccepted, rfl⟩ := map_eq_ok_iff.1 hread
    exact .change hline haccepted

/-- A line that says something is narrative, or a directive with arguments that can be read. -/
theorem Says.cases_directive {grammar : Grammar} {line : List Char} {statement : Statement}
    (h : Says grammar line statement) :
    (∃ runs, Directive.ofLine? line = none ∧ readNarrative grammar line = .ok runs ∧
      statement = .narrative runs) ∨
    ∃ keyword directive, IsDirective grammar line keyword directive ∧
      directive.statement keyword = .ok statement := by
  cases h with
  | narrative hline hread => exact .inl ⟨_, hline, hread, rfl⟩
  | option hline hread => exact .inr ⟨_, _, hline, map_eq_ok_iff.2 ⟨_, hread, rfl⟩⟩
  | change hline hread => exact .inr ⟨_, _, hline, map_eq_ok_iff.2 ⟨_, hread, rfl⟩⟩
  | jump hline hread => exact .inr ⟨_, _, hline, map_eq_ok_iff.2 ⟨_, hread, rfl⟩⟩
  | openIf hline hread => exact .inr ⟨_, _, hline, map_eq_ok_iff.2 ⟨_, hread, rfl⟩⟩
  | elseBranch hline hbare => exact .inr ⟨_, _, hline, bare_eq_ok_iff.2 ⟨hbare, rfl⟩⟩
  | closeIf hline hbare => exact .inr ⟨_, _, hline, bare_eq_ok_iff.2 ⟨hbare, rfl⟩⟩
  | endBlock hline hbare => exact .inr ⟨_, _, hline, bare_eq_ok_iff.2 ⟨hbare, rfl⟩⟩
  | block hline => exact .inr ⟨_, _, hline, rfl⟩
  | entry hline => exact .inr ⟨_, _, hline, rfl⟩

/-- The reader takes a line for what it says. -/
theorem read_eq_ok_iff {grammar : Grammar} {line : List Char} {statement : Statement} :
    Statement.read grammar line = .ok statement ↔ Says grammar line statement := by
  rw [Statement.read]
  constructor
  · intro h
    cases hline : Directive.ofLine? line with
    | none =>
      rw [hline] at h
      obtain ⟨runs, hread, rfl⟩ := map_eq_ok_iff.1 h
      exact .narrative hline hread
    | some directive =>
      rw [hline] at h
      cases hkeyword : directive.keyword? grammar with
      | error flaw => simp [hkeyword, bind, Except.bind] at h
      | ok keyword =>
        cases keyword with
        | none => simp [hkeyword, bind, Except.bind] at h
        | some keyword =>
          simp only [hkeyword, bind, Except.bind] at h
          exact says_of_statement ((keyword?_eq_some_iff hline).1 hkeyword) h
  · intro h
    rcases h.cases_directive with ⟨runs, hline, hread, rfl⟩ | ⟨keyword, directive, hline, hread⟩
    · rw [hline]
      exact map_eq_ok_iff.2 ⟨runs, hread, rfl⟩
    · exact hline.read_eq.trans hread

/-- A line says one thing at most. -/
theorem Says.unique {grammar : Grammar} {line : List Char} {statement other : Statement}
    (h : Says grammar line statement) (hother : Says grammar line other) : statement = other :=
  Except.ok.inj ((read_eq_ok_iff.2 h).symm.trans (read_eq_ok_iff.2 hother))

/-- The first of the lines, if there is one, is an option. -/
def BeginsWithOption (grammar : Grammar) (lines : List (List Char)) : Prop :=
  ∃ line choice, lines.head? = some line ∧ Says grammar line (.option choice)

/-- Lines that are items, and the nodes they stand for in their order. A row of options that no
    further option follows is one menu; a branch that does not begin is empty. -/
inductive Items (grammar : Grammar) : List (List Char) → List Node → Prop
  | nil : Items grammar [] []
  | narrative {line : List Char} {runs : List TextRun} {rest : List (List Char)}
      {nodes : List Node} (hline : Says grammar line (.narrative runs))
      (hrest : Items grammar rest nodes) :
      Items grammar (line :: rest) (runs.map .text ++ nodes)
  | change {line : List Char} {change : StateChange} {rest : List (List Char)}
      {nodes : List Node} (hline : Says grammar line (.change change))
      (hrest : Items grammar rest nodes) : Items grammar (line :: rest) (.change change :: nodes)
  | jump {line : List Char} {destination : Destination} {rest : List (List Char)}
      {nodes : List Node} (hline : Says grammar line (.jump destination))
      (hrest : Items grammar rest nodes) :
      Items grammar (line :: rest) (.jump destination :: nodes)
  | menu {lines : List (List Char)} {choices : List Choice} {rest : List (List Char)}
      {nodes : List Node}
      (hlines : List.Forall₂ (fun line choice => Says grammar line (.option choice)) lines choices)
      (hsome : choices ≠ []) (hmaximal : ¬ BeginsWithOption grammar rest)
      (hrest : Items grammar rest nodes) : Items grammar (lines ++ rest) (.menu choices :: nodes)
  | conditional {opener closer : List Char} {condition : Condition}
      {body rest : List (List Char)} {thenNodes nodes : List Node}
      (hopener : Says grammar opener (.openIf condition)) (hbody : Items grammar body thenNodes)
      (hcloser : Says grammar closer .closeIf) (hrest : Items grammar rest nodes) :
      Items grammar (opener :: body ++ closer :: rest)
        (.conditional condition thenNodes [] :: nodes)
  | conditionalElse {opener divider closer : List Char} {condition : Condition}
      {body others rest : List (List Char)} {thenNodes elseNodes nodes : List Node}
      (hopener : Says grammar opener (.openIf condition)) (hbody : Items grammar body thenNodes)
      (hdivider : Says grammar divider .elseBranch) (hothers : Items grammar others elseNodes)
      (hcloser : Says grammar closer .closeIf) (hrest : Items grammar rest nodes) :
      Items grammar (opener :: body ++ divider :: others ++ closer :: rest)
        (.conditional condition thenNodes elseNodes :: nodes)

theorem not_beginsWithOption_cons {grammar : Grammar} {line : List Char}
    {lines : List (List Char)} {statement : Statement} (h : Says grammar line statement)
    (hother : ∀ choice, statement ≠ .option choice) :
    ¬ BeginsWithOption grammar (line :: lines) := by
  rintro ⟨_, choice, hhead, hoption⟩
  cases hhead
  exact hother choice (h.unique hoption)

/-- An option in front of items joins the row that they begin with, or is a row by itself. -/
theorem Items.cons_option {grammar : Grammar} {line : List Char} {lines : List (List Char)}
    {choice : Choice} {nodes : List Node} (hline : Says grammar line (.option choice))
    (h : Items grammar lines nodes) : ∃ others, Items grammar (line :: lines) others := by
  -- By itself it is a row of one, which may not be followed by an option.
  have halone : ¬ BeginsWithOption grammar lines → Items grammar (line :: lines)
      (.menu [choice] :: nodes) :=
    fun hmaximal => .menu (.cons hline .nil) (List.cons_ne_nil _ _) hmaximal h
  cases h with
  | nil => exact ⟨_, halone fun ⟨_, _, hhead, _⟩ => by cases hhead⟩
  | narrative hfirst _ => exact ⟨_, halone (not_beginsWithOption_cons hfirst (by simp))⟩
  | change hfirst _ => exact ⟨_, halone (not_beginsWithOption_cons hfirst (by simp))⟩
  | jump hfirst _ => exact ⟨_, halone (not_beginsWithOption_cons hfirst (by simp))⟩
  | menu hlines _ hmaximal hrest =>
    exact ⟨_, .menu (.cons hline hlines) (List.cons_ne_nil _ _) hmaximal hrest⟩
  | conditional hopener _ _ _ =>
    exact ⟨_, halone (not_beginsWithOption_cons hopener (by simp))⟩
  | conditionalElse hopener _ _ _ _ _ =>
    exact ⟨_, halone (by
      rw [List.cons_append, List.cons_append]
      exact not_beginsWithOption_cons hopener (by simp))⟩

/-- The statement belongs to the items of a block or a branch: it neither ends a block nor is a
    heading. -/
def Statement.staysInside : Statement → Bool
  | .endBlock | .block | .entry => false
  | _ => true

/-- Every line of a row of options is an option. -/
theorem exists_option_of_mem {grammar : Grammar} {lines : List (List Char)}
    {choices : List Choice}
    (h : List.Forall₂ (fun line choice => Says grammar line (.option choice)) lines choices) :
    ∀ line ∈ lines, ∃ choice, Says grammar line (.option choice) := by
  induction h with
  | nil => exact nofun
  | cons hline _ ih => exact List.forall_mem_cons.2 ⟨⟨_, hline⟩, ih⟩

/-- No line of items ends a block or is a heading. -/
theorem Items.says_of_mem {grammar : Grammar} {lines : List (List Char)} {nodes : List Node}
    (h : Items grammar lines nodes) :
    ∀ line ∈ lines, ∃ statement, Says grammar line statement ∧ statement.staysInside = true := by
  induction h with
  | nil => exact nofun
  | narrative hline _ ih => exact List.forall_mem_cons.2 ⟨⟨_, hline, rfl⟩, ih⟩
  | change hline _ ih => exact List.forall_mem_cons.2 ⟨⟨_, hline, rfl⟩, ih⟩
  | jump hline _ ih => exact List.forall_mem_cons.2 ⟨⟨_, hline, rfl⟩, ih⟩
  | menu hlines _ _ _ ih =>
    refine List.forall_mem_append.2 ⟨fun line hmem => ?_, ih⟩
    obtain ⟨choice, hline⟩ := exists_option_of_mem hlines line hmem
    exact ⟨_, hline, rfl⟩
  | conditional hopener _ hcloser _ ihbody ihrest =>
    have hbody := List.forall_mem_cons.2 ⟨⟨_, hopener, rfl⟩, ihbody⟩
    have hrest := List.forall_mem_cons.2 ⟨⟨_, hcloser, rfl⟩, ihrest⟩
    exact List.forall_mem_append.2 ⟨hbody, hrest⟩
  | conditionalElse hopener _ hdivider _ hcloser _ ihbody ihothers ihrest =>
    have hbody := List.forall_mem_cons.2 ⟨⟨_, hopener, rfl⟩, ihbody⟩
    have hothers := List.forall_mem_cons.2 ⟨⟨_, hdivider, rfl⟩, ihothers⟩
    have hrest := List.forall_mem_cons.2 ⟨⟨_, hcloser, rfl⟩, ihrest⟩
    exact List.forall_mem_append.2 ⟨List.forall_mem_append.2 ⟨hbody, hothers⟩, hrest⟩

/-! ## Lines outside of the blocks

  Outside of the blocks blank lines and comments are allowed, and directives that open a block or
  name the entry.  A line that begins with the mark of a comment is idle even if it could be read as
  a directive, so what announces something has to be no idle line. -/

/-- A line that says nothing: it is blank, or begins with the mark of a comment. -/
def IsIdle (grammar : Grammar) (line : List Char) : Prop :=
  trim line = [] ∨ grammar.commentPrefix.toList <+: trim line

/-- What a line outside of the blocks announces: it is not idle, but a directive with a name. -/
inductive Announces (grammar : Grammar) (line : List Char) : Heading → Prop
  | block {directive : Directive} (hbusy : ¬ IsIdle grammar line)
      (hline : IsDirective grammar line .block directive)
      (hname : isName directive.arguments = true) :
      Announces grammar line (.block (String.ofList directive.arguments) directive)
  | entry {directive : Directive} (hbusy : ¬ IsIdle grammar line)
      (hline : IsDirective grammar line .entry directive)
      (hname : isName directive.arguments = true) :
      Announces grammar line (.entry (String.ofList directive.arguments) directive)

theorem isIdle_iff {grammar : Grammar} {line : List Char} :
    isIdle grammar line = true ↔ IsIdle grammar line := by
  rw [isIdle, Bool.or_eq_true, List.isEmpty_iff, List.isPrefixOf_iff_prefix, IsIdle]

/-- The reader passes over a line that is idle. -/
theorem heading_read_of_idle {grammar : Grammar} {line : List Char} (h : IsIdle grammar line) :
    Heading.read grammar line = .ok none := by
  rw [Heading.read, if_pos (isIdle_iff.2 h)]

/-- A line that the reader accepts outside of the blocks is idle or announces something. -/
theorem announces_of_read {grammar : Grammar} {line : List Char} {heading : Option Heading}
    (h : Heading.read grammar line = .ok heading) :
    (heading = none ∧ IsIdle grammar line) ∨
      ∃ announced, heading = some announced ∧ Announces grammar line announced := by
  rw [Heading.read] at h
  by_cases hidle : isIdle grammar line = true
  · rw [if_pos hidle] at h
    exact .inl ⟨(Except.ok.inj h).symm, isIdle_iff.1 hidle⟩
  · rw [if_neg hidle] at h
    have hbusy : ¬ IsIdle grammar line := fun hline => hidle (isIdle_iff.2 hline)
    right
    cases hline : Directive.ofLine? line with
    | none => rw [hline] at h; cases h
    | some directive =>
      rw [hline] at h
      cases hkeyword : directive.keyword? grammar with
      | error flaw => simp [hkeyword, bind, Except.bind] at h
      | ok keyword =>
        simp only [hkeyword, bind, Except.bind] at h
        split at h
        -- `@block`, and then `@entry`: the name is looked at in the same way.
        next =>
          split at h
          next hname =>
            have hdirective := (keyword?_eq_some_iff hline).1 hkeyword
            exact ⟨_, (Except.ok.inj h).symm, .block hbusy hdirective hname⟩
          next => cases h
        next =>
          split at h
          next hname =>
            have hdirective := (keyword?_eq_some_iff hline).1 hkeyword
            exact ⟨_, (Except.ok.inj h).symm, .entry hbusy hdirective hname⟩
          next => cases h
        next => cases h

/-- The reader takes a line for the heading that it announces. -/
theorem heading_read_of_announces {grammar : Grammar} {line : List Char} {heading : Heading}
    (h : Announces grammar line heading) : Heading.read grammar line = .ok (some heading) := by
  have hread : ∀ {keyword directive}, ¬ IsIdle grammar line →
      IsDirective grammar line keyword directive →
      isIdle grammar line = false ∧ Directive.ofLine? line = some directive ∧
        directive.keyword? grammar = .ok (some keyword) :=
    fun hbusy hline => ⟨Bool.eq_false_iff.2 fun hidle => hbusy (isIdle_iff.1 hidle),
      hline.divides, (keyword?_eq_some_iff hline.divides).2 hline⟩
  cases h with
  | block hbusy hline hname =>
    obtain ⟨hidle, hdivides, hkeyword⟩ := hread hbusy hline
    simp [Heading.read, hidle, hdivides, hkeyword, hname, bind, Except.bind]
  | entry hbusy hline hname =>
    obtain ⟨hidle, hdivides, hkeyword⟩ := hread hbusy hline
    simp [Heading.read, hidle, hdivides, hkeyword, hname, bind, Except.bind]

/-- Lines that are a file from line `number` on, with their blocks and the declared entries. -/
inductive Parts (grammar : Grammar) :
    Nat → List (List Char) → List Block → List String → Prop
  | nil {number : Nat} : Parts grammar number [] [] []
  | idle {number : Nat} {line : List Char} {rest : List (List Char)} {blocks : List Block}
      {entries : List String} (hline : IsIdle grammar line)
      (hrest : Parts grammar (number + 1) rest blocks entries) :
      Parts grammar number (line :: rest) blocks entries
  | entry {number : Nat} {line : List Char} {name : String} {directive : Directive}
      {rest : List (List Char)} {blocks : List Block} {entries : List String}
      (hline : Announces grammar line (.entry name directive))
      (hrest : Parts grammar (number + 1) rest blocks entries) :
      Parts grammar number (line :: rest) blocks (name :: entries)
  | block {number : Nat} {opener closer : List Char} {name : String} {directive : Directive}
      {body rest : List (List Char)} {nodes : List Node} {blocks : List Block}
      {entries : List String} (hopener : Announces grammar opener (.block name directive))
      (hbody : Items grammar body nodes) (hcloser : Says grammar closer .endBlock)
      (hrest : Parts grammar (number + body.length + 2) rest blocks entries) :
      Parts grammar number (opener :: body ++ closer :: rest)
        ({ name, nodes, line := number } :: blocks) entries

/-- The story that the lines of a file are. Its blocks have different names, its entry is declared
    once at most and then names one of them, and is the first block otherwise. -/
def IsStory (grammar : Grammar) (fileId : String) (lines : List (List Char)) (story : Story) :
    Prop :=
  ∃ blocks entries, Parts grammar 1 lines blocks entries ∧
    (blocks.map Block.name).Nodup ∧ entries.length ≤ 1 ∧
    (∀ entry ∈ entries, entry ∈ blocks.map Block.name) ∧
    story = { fileId, blocks, entry := entries.head?.or (blocks.head?.map Block.name) }

end Gamebook.Markup
