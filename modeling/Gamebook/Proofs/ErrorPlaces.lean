/-
  Where the error of a file is told to be.

  A file has an error because of one of its lines, or because a line has opened something that is
  still open when all lines have been read.  The flaw of a line shows in this line, as the readers
  of lines say.  Of what is open a draft remembers the number of the line, and the one thing to show
  is that it remembers right:

  * `Opens`: the line of a number is a directive that opens something.
  * `Draft.Recalls`: every number that a draft remembers is that of such a line.  Each line keeps
    this so (`recalls_takeLine`), and so do any number of them (`recalls_takeLines`).
  * `cases_of_readStory`: the line of an error is there, and the error is of one of the two kinds.
  * `place_of_readStory`: therefore its column is never outside of its line.
  * `column_of_readStory`: it is never among the blanks in front of the line either, unless the line
    has opened something; for then the column is always the first, wherever the directive stands.
-/
import Gamebook.Proofs.FlawColumns

namespace Gamebook.Markup

open Gamebook.Text

/-! ## Lines that open something

  Lines are counted from one, so the line of a number is one place further in front in the list.  As
  more lines are read, nothing that is known of the earlier ones changes. -/

/-- The line of this number is a directive with this keyword. -/
def Opens (grammar : Grammar) (lines : List (List Char)) (keyword : Keyword) (number : Nat) :
    Prop :=
  ∃ index line directive, number = index + 1 ∧ lines[index]? = some line ∧
    IsDirective grammar line keyword directive

section

variable {grammar : Grammar} {lines : List (List Char)} {line : List Char} {keyword : Keyword}
  {number : Nat}

/-- The lines that follow do not change the number of a line. -/
theorem Opens.concat (h : Opens grammar lines keyword number) (line : List Char) :
    Opens grammar (lines ++ [line]) keyword number := by
  obtain ⟨index, opener, directive, hnumber, hline, hdirective⟩ := h
  obtain ⟨hlt, -⟩ := List.getElem?_eq_some_iff.1 hline
  refine ⟨index, opener, directive, hnumber, ?_, hdirective⟩
  rw [List.getElem?_append_left hlt]
  exact hline

theorem opens_last {directive : Directive} (h : IsDirective grammar line keyword directive) :
    Opens grammar (lines ++ [line]) keyword (lines.length + 1) :=
  ⟨lines.length, line, directive, rfl, List.getElem?_concat_length, h⟩

/-- The numbers that an open block remembers are those of the lines that have opened it and its
    conditionals. -/
structure OpenBlock.Recalls (grammar : Grammar) (lines : List (List Char)) (block : OpenBlock) :
    Prop where
  opened : Opens grammar lines .block block.line
  conditionals : ∀ number ∈ block.conditionals.map (·.line), Opens grammar lines .openIf number

/-- The numbers that a draft remembers are those of the lines that have opened what is open. -/
structure Draft.Recalls (grammar : Grammar) (lines : List (List Char)) (draft : Draft) : Prop where
  entry : ∀ name number, draft.entry = some (name, number) → Opens grammar lines .entry number
  current : ∀ block, draft.current = some block → block.Recalls grammar lines

theorem Draft.recalls_empty (grammar : Grammar) : Draft.Recalls grammar [] {} := ⟨nofun, nofun⟩

theorem OpenBlock.Recalls.concat {block : OpenBlock} (h : block.Recalls grammar lines)
    (line : List Char) : block.Recalls grammar (lines ++ [line]) where
  opened := h.opened.concat line
  conditionals number hmem := (h.conditionals number hmem).concat line

theorem Draft.Recalls.concat {draft : Draft} (h : draft.Recalls grammar lines)
    (line : List Char) : draft.Recalls grammar (lines ++ [line]) where
  entry name number hentry := (h.entry name number hentry).concat line
  current block hblock := (h.current block hblock).concat line

theorem Draft.Recalls.continueWith {draft : Draft} (h : draft.Recalls grammar lines)
    {block : OpenBlock} (hblock : block.Recalls grammar lines) :
    (draft.continueWith block).Recalls grammar lines where
  entry := h.entry
  current other hother := by
    cases hother
    exact hblock

/-- Nodes are added to a block without any line being opened. -/
theorem OpenBlock.Recalls.add {block : OpenBlock} (h : block.Recalls grammar lines)
    (nodes : List Node) : (block.add nodes).Recalls grammar lines := by
  obtain ⟨name, line, before, conditionals, pending⟩ := block
  -- The nodes go to the block or to the innermost conditional, and no number is changed.
  cases conditionals with
  | nil => exact ⟨h.opened, h.conditionals⟩
  | cons innermost outer =>
    obtain ⟨line, condition, thenNodes, elseNodes⟩ := innermost
    cases elseNodes with
    | none => exact ⟨h.opened, h.conditionals⟩
    | some others => exact ⟨h.opened, h.conditionals⟩

/-- Ending a row of options opens nothing either. -/
theorem OpenBlock.Recalls.flush {block : OpenBlock} (h : block.Recalls grammar lines) :
    block.flush.Recalls grammar lines := by
  rw [OpenBlock.flush]
  split
  next => exact h
  next => exact ⟨(h.add _).opened, (h.add _).conditionals⟩

/-! ## What a draft remembers

  The invariant is kept by every line.  The number of a line is handed to the reader by whoever
  counts the lines, so the invariant has the lines that were read as an argument, and the next
  number is one more than there are. -/

/-- The step lemma inside a block, one case for each statement: only the line of a conditional is
    remembered anew, and only the end of a branch or of the block makes one forgotten. -/
theorem recalls_takeStatement {draft next : Draft} {block : OpenBlock} {statement : Statement}
    (hdraft : draft.Recalls grammar lines) (hblock : block.Recalls grammar lines)
    (hstatement : Says grammar line statement)
    (h : draft.takeStatement (lines.length + 1) line block statement = .ok next) :
    next.Recalls grammar (lines ++ [line]) := by
  have hlater := hdraft.concat line
  have hopen := hblock.concat line
  cases hstatement with
  | narrative _ _ =>
    cases h
    exact hlater.continueWith (hopen.add _)
  | change _ _ =>
    cases h
    exact hlater.continueWith (hopen.add _)
  | jump _ _ =>
    cases h
    exact hlater.continueWith (hopen.add _)
  | option _ _ =>
    cases h
    exact hlater.continueWith ⟨hopen.opened, hopen.conditionals⟩
  | openIf hline _ =>
    cases h
    refine hlater.continueWith ⟨hopen.opened, fun number hmem => ?_⟩
    rcases List.mem_cons.1 hmem with rfl | hmem
    · exact opens_last hline
    · exact hopen.conditionals number hmem
  | elseBranch _ _ =>
    rw [Draft.takeStatement] at h
    split at h
    next => cases h
    next innermost outer hconditionals =>
      split at h
      next => cases h
      next =>
        cases h
        refine hlater.continueWith ⟨hopen.opened, fun number hmem => hopen.conditionals number ?_⟩
        rw [hconditionals]
        exact hmem
  | closeIf _ _ =>
    rw [Draft.takeStatement] at h
    split at h
    next => cases h
    next innermost outer hconditionals =>
      cases h
      have houter : OpenBlock.Recalls grammar (lines ++ [line])
          { block with conditionals := outer } := by
        refine ⟨hopen.opened, fun number hmem => hopen.conditionals number ?_⟩
        rw [hconditionals]
        exact List.mem_cons_of_mem _ hmem
      exact hlater.continueWith (houter.add _)
  | endBlock _ _ =>
    rw [Draft.takeStatement] at h
    split at h
    next =>
      cases h
      exact ⟨hlater.entry, fun _ hblock => by cases hblock⟩
    next => cases h
  | block _ => cases h
  | entry _ => cases h

/-- **The step lemma**: a draft that remembers right still does after the next line. -/
theorem recalls_takeLine {draft next : Draft} (hdraft : draft.Recalls grammar lines)
    (h : draft.takeLine grammar (lines.length + 1) line = .ok next) :
    next.Recalls grammar (lines ++ [line]) := by
  have hlater := hdraft.concat line
  cases hcurrent : draft.current with
  -- Outside of a block: an idle line, the beginning of a block, or an entry.
  | none =>
    rcases Draft.cases_of_takeLine_outside hcurrent h with ⟨-, rfl⟩ |
      ⟨name, directive, hannounces, -, rfl⟩ | ⟨name, directive, hannounces, -, rfl⟩
    · exact hlater
    · cases hannounces with
      | block _ hline _ => exact hlater.continueWith ⟨opens_last hline, nofun⟩
    · cases hannounces with
      | entry _ hline _ =>
        refine ⟨fun name number hentry => ?_, hlater.current⟩
        cases hentry
        exact opens_last hline
  -- Inside of a block: a statement, before which the row of options may end.
  | some block =>
    have hsame : draft = draft.continueWith block := by
      obtain ⟨blocks, entry, current⟩ := draft
      cases hcurrent
      rfl
    have hblock := hdraft.current block hcurrent
    rw [hsame] at h hdraft
    obtain ⟨statement, hstatement, htaken⟩ := Draft.exists_of_takeLine_inside h
    refine recalls_takeStatement hdraft ?_ hstatement htaken
    split
    next => exact hblock
    next => exact hblock.flush

/-- **The run lemma**: it does after any lines. -/
theorem recalls_takeLines {draft final : Draft} {earlier : List (List Char)}
    (hdraft : draft.Recalls grammar earlier)
    (h : Draft.takeLines grammar draft (earlier.length + 1) lines = .ok final) :
    final.Recalls grammar (earlier ++ lines) := by
  induction lines generalizing draft earlier with
  | nil =>
    cases h
    rw [List.append_nil]
    exact hdraft
  | cons line rest ih =>
    obtain ⟨next, hnext, hrest⟩ := Draft.exists_of_takeLines_cons h
    -- The next line has the next number.
    have hlength : earlier.length + 1 = (earlier ++ [line]).length := by
      rw [List.length_append, List.length_singleton]
    rw [hlength] at hrest
    have hfinal := ih (recalls_takeLine hdraft hnext) hrest
    rw [List.append_assoc] at hfinal
    exact hfinal

/-! ## Two kinds of errors

  Reading stops at the first line that cannot be taken in; or there is none, and something was left
  open. -/

/-- The first line that cannot be taken in is the one that is told of, and the flaw shows in it. -/
theorem exists_line_of_takeLines {draft : Draft} {first : Nat} {flaw : Flaw}
    (h : Draft.takeLines grammar draft first lines = .error (number, flaw)) :
    ∃ index line, number = first + index ∧ lines[index]? = some line ∧ IsOfLine flaw ∧
      IsWithin (indentation line + 1) (trimLeft line).length flaw.column := by
  induction lines generalizing draft first with
  | nil => cases h
  | cons line rest ih =>
    rw [Draft.takeLines] at h
    cases hnext : draft.takeLine grammar first line with
    | error other =>
      rw [hnext] at h
      cases h
      obtain ⟨hkind, hwithin⟩ := takeLine_flaws grammar draft _ line flaw hnext
      exact ⟨0, line, rfl, rfl, hkind, hwithin⟩
    | ok next =>
      rw [hnext] at h
      obtain ⟨index, other, hnumber, hother, hshows⟩ := ih h
      exact ⟨index + 1, other, by omega, hother, hshows⟩

/-- What is left open is told of at the line that has opened it, and in the first column. -/
theorem opens_of_finish {draft : Draft} (hdraft : draft.Recalls grammar lines) {fileId : String}
    {flaw : Flaw} (h : draft.finish fileId = .error (number, flaw)) :
    ∃ keyword, flaw.problem.opener? = some keyword ∧ flaw.column = 1 ∧
      Opens grammar lines keyword number := by
  rw [Draft.finish] at h
  split at h
  next block hcurrent =>
    have hblock := hdraft.current block hcurrent
    rw [Draft.openFlaw] at h
    split at h
    next innermost outer hconditionals =>
      cases h
      refine ⟨.openIf, rfl, rfl, hblock.conditionals _ ?_⟩
      rw [hconditionals]
      exact List.mem_cons_self
    next =>
      cases h
      exact ⟨.block, rfl, rfl, hblock.opened⟩
  next name _ _ hentry =>
    split at h
    next => cases h
    next =>
      cases h
      exact ⟨.entry, rfl, rfl, hdraft.entry name _ hentry⟩
  next => cases h

/-- **An error is one of the line that it tells of and shows in it, or this line has opened
    something and the first column is told.** -/
theorem cases_of_readStory {fileId text : String} {error : ParseError}
    (h : readStory grammar fileId text = .error error) :
    error.fileId = fileId ∧ ∃ index line, error.line = index + 1 ∧
      (linesOf text.toList)[index]? = some line ∧
      ((error.flaw.problem.opener? = none ∧
          IsWithin (indentation line + 1) (trimLeft line).length error.flaw.column) ∨
        ∃ keyword directive, error.flaw.problem.opener? = some keyword ∧ error.flaw.column = 1 ∧
          IsDirective grammar line keyword directive) := by
  rw [readStory] at h
  split at h
  next => cases h
  next number flaw hlines =>
    cases h
    refine ⟨rfl, ?_⟩
    rw [readLines] at hlines
    cases htaken : Draft.takeLines grammar {} 1 (linesOf text.toList) with
    -- A line was refused.
    | error failed =>
      rw [htaken] at hlines
      cases hlines
      obtain ⟨index, line, rfl, hline, hkind, hwithin⟩ := exists_line_of_takeLines htaken
      exact ⟨index, line, Nat.add_comm 1 index, hline, .inl ⟨hkind, hwithin⟩⟩
    -- All lines were taken in.
    | ok draft =>
      rw [htaken] at hlines
      have hdraft : draft.Recalls grammar ([] ++ linesOf text.toList) :=
        recalls_takeLines (Draft.recalls_empty grammar) htaken
      obtain ⟨keyword, hopener, hcolumn, index, line, directive, rfl, hline, hdirective⟩ :=
        opens_of_finish hdraft hlines
      exact ⟨index, line, rfl, hline, .inr ⟨keyword, directive, hopener, hcolumn, hdirective⟩⟩

/-! ## In range

  A column within a line, counted from one, is at most one more than the line has characters: that
  is where something is told to be missing. -/

/-- **An error is told of in its file, at a line of it and at a column of this line.** Lines and
    columns are counted from one; where something is missing at its end, the column is the one right
    behind the last character of the line, with every character counted that was written. -/
theorem place_of_readStory {fileId text : String} {error : ParseError}
    (h : readStory grammar fileId text = .error error) :
    error.fileId = fileId ∧ 1 ≤ error.line ∧ error.line ≤ (linesOf text.toList).length ∧
      ∃ line, (linesOf text.toList)[error.line - 1]? = some line ∧
        1 ≤ error.flaw.column ∧ error.flaw.column ≤ line.length + 1 := by
  obtain ⟨hfile, index, line, hnumber, hline, hkind⟩ := cases_of_readStory h
  obtain ⟨hlt, -⟩ := List.getElem?_eq_some_iff.1 hline
  have hindex : error.line - 1 = index := by omega
  have hlength := indentation_add_length line
  refine ⟨hfile, by omega, by omega, line, by rw [hindex]; exact hline, ?_⟩
  rcases hkind with ⟨-, hfirst, hlast⟩ | ⟨keyword, directive, -, hcolumn, -⟩
  · constructor <;> omega
  · rw [hcolumn]
    constructor <;> omega

/-- The marker stands behind an escape, which is left out of the text and counted all the same; the
    destination is missing at the very end of its line. -/
theorem place_of_readStory_lane :
    ∃ marker jump, readStory {} "lane" "@block a\n \\@x {pink}\n@end" = .error marker ∧
      marker.line = 2 ∧ marker.flaw.column = 6 ∧
      readStory {} "lane" "@block a\r\n  @jump\t \r@end" = .error jump ∧
      jump.line = 2 ∧ jump.flaw.column = 8 ∧ jump.line ≤ 3 ∧
      ∃ line, (linesOf "@block a\r\n  @jump\t \r@end".toList)[1]? = some line ∧
        1 ≤ jump.flaw.column ∧ jump.flaw.column ≤ line.length + 1 := by
  have hmarker : readStory {} "lane" "@block a\n \\@x {pink}\n@end" =
      .error ⟨"lane", 2, ⟨.unknownColor "pink", 6, "{pink}"⟩⟩ := by decide +kernel
  have hjump : readStory {} "lane" "@block a\r\n  @jump\t \r@end" =
      .error ⟨"lane", 2, ⟨.missingDestination, 8, ""⟩⟩ := by decide +kernel
  obtain ⟨-, -, hlast, hline⟩ := place_of_readStory hjump
  exact ⟨_, _, hmarker, rfl, rfl, hjump, rfl, rfl, hlast, hline⟩

/-! ## Behind the blanks

  The column of a line that is refused is one of its text without the blanks in front.  For what was
  left open the column is not taken from the line at all. -/

/-- **Only what is left open is told of in front of its line.** The column of any other error is
    behind the blanks in front of the line. A block or a conditional without an end, or an entry
    that names no block, is told of at the line of its directive, but always in the first column, so
    this is the column of the directive just if no blanks stand in front of it. -/
theorem column_of_readStory {fileId text : String} {error : ParseError}
    (h : readStory grammar fileId text = .error error) :
    ∃ line, (linesOf text.toList)[error.line - 1]? = some line ∧
      (error.flaw.problem.opener? = none → indentation line < error.flaw.column) ∧
      (∀ keyword, error.flaw.problem.opener? = some keyword → error.flaw.column = 1 ∧
        ∃ directive, IsDirective grammar line keyword directive ∧
          (error.flaw.column = directive.column ↔ indentation line = 0)) ∧
      (indentation line < error.flaw.column ↔
        error.flaw.problem.opener? = none ∨ indentation line = 0) := by
  obtain ⟨-, index, line, hnumber, hline, hkind⟩ := cases_of_readStory h
  have hindex : error.line - 1 = index := by omega
  refine ⟨line, by rw [hindex]; exact hline, ?_⟩
  rcases hkind with ⟨hopener, hfirst, -⟩ | ⟨keyword, directive, hopener, hcolumn, hdirective⟩
  · have hbehind : indentation line < error.flaw.column := hfirst
    refine ⟨fun _ => hbehind, fun keyword hother => ?_, fun _ => .inl hopener, fun _ => hbehind⟩
    rw [hopener] at hother
    cases hother
  · have hstands := (Directive.within hdirective.divides).1
    rw [hopener, hcolumn]
    refine ⟨nofun, fun other hother => ?_, ?_⟩
    · cases hother
      exact ⟨rfl, directive, hdirective, by rw [hstands]; omega⟩
    · constructor
      · intro hlt
        exact .inr (by omega)
      · rintro (hnone | hzero)
        · cases hnone
        · omega

/-- A conditional that is left open two blanks further in. -/
theorem column_of_readStory_open :
    ∃ error, readStory {} "moat" "@block a\n  @if flag:wet\n" = .error error ∧
      error.line = 2 ∧ error.flaw.column = 1 ∧
      ∃ directive, IsDirective {} "  @if flag:wet".toList .openIf directive ∧
        error.flaw.column ≠ directive.column := by
  have hread : readStory {} "moat" "@block a\n  @if flag:wet\n" =
      .error ⟨"moat", 2, ⟨.unterminatedConditional, 1, "@if"⟩⟩ := by decide +kernel
  obtain ⟨line, hline, -, hopened, -⟩ := column_of_readStory hread
  have hsame : (linesOf "@block a\n  @if flag:wet\n".toList)[1]? =
      some "  @if flag:wet".toList := by decide +kernel
  cases hsame.symm.trans hline
  obtain ⟨-, directive, hdirective, hiff⟩ := hopened .openIf rfl
  refine ⟨_, hread, rfl, rfl, directive, hdirective, fun heq => ?_⟩
  exact absurd (hiff.1 heq) (by decide)

/-- A block that is left open is not told of where it stands, but among the blanks in front. -/
theorem column_of_readStory_indented :
    ∃ error line, readStory {} "moat" "  @block a\n" = .error error ∧
      (linesOf "  @block a\n".toList)[error.line - 1]? = some line ∧
      ¬ indentation line < error.flaw.column :=
  ⟨⟨"moat", 1, ⟨.unterminatedBlock "a", 1, "@block"⟩⟩, "  @block a".toList,
    by decide +kernel, by decide +kernel, by decide⟩

end

end Gamebook.Markup
