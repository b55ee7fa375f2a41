/-
  Line breaks do not matter.

  A line of a story file may end with a line feed, a carriage return, or both, and every line may
  end in its own way; the last one need not be ended at all.  `IsText lines text` says that a text
  is these lines, however they are ended.  The one thing that it rules out is a carriage return by
  itself in front of a line feed, because there the two are one line break.

  * `splitWhere_isText`: dividing the text gives back its lines, and a last one that is empty if all
    of them are ended.
  * `readLines_dropEmptyEnd`: an empty line at the end says nothing.  Outside of the blocks it is
    idle, and inside a block it is narrative of a block that is not ended, so that the reader comes
    to the same flaw, which shows at the line that was left open (`openFlaw_add`).
  * `readStory_of_isText`: so all the texts of some lines are read alike, with any number of byte
    order marks in front: as the same story, or with the same error.
-/
import Gamebook.Proofs.BlockReading
import Gamebook.Proofs.TextPieces

namespace Gamebook.Markup

open Gamebook.Text

/-! ## Texts and their lines

  The definition follows a text from its front.  What makes it more than a list of endings is the
  condition on a carriage return that stands by itself: the next line must not be empty and ended
  with a line feed. -/

/-- A way to end a line. -/
inductive LineBreak where
  | lineFeed
  | carriageReturn
  /-- A carriage return and a line feed. -/
  | both
deriving DecidableEq

/-- The characters of a line break. -/
def LineBreak.chars : LineBreak → List Char
  | lineFeed => ['\n']
  | carriageReturn => ['\r']
  | both => ['\r', '\n']

/-- The line does not hold any line break. -/
def IsUnbroken (line : List Char) : Prop := '\r' ∉ line ∧ '\n' ∉ line

/-- The text is these lines, each of them ended in some way but perhaps the last. A line that is
    ended with a carriage return alone does not stand in front of a line feed, as it would if an
    empty line followed that is ended with one. -/
inductive IsText : List (List Char) → List Char → Prop
  | nil : IsText [] []
  | last {line : List Char} (hline : IsUnbroken line) : IsText [line] line
  | ended {line : List Char} {lines : List (List Char)} {rest : List Char}
      (hline : IsUnbroken line) (ending : LineBreak)
      (hapart : ending = .carriageReturn → rest.head? ≠ some '\n') (hrest : IsText lines rest) :
      IsText (line :: lines) (line ++ (ending.chars ++ rest))

/-- No line of a text holds a line break. -/
theorem IsText.isUnbroken {lines : List (List Char)} {text : List Char} (h : IsText lines text) :
    ∀ line ∈ lines, IsUnbroken line := by
  induction h with
  | nil => exact fun _ hmem => absurd hmem List.not_mem_nil
  | last hline => exact List.forall_mem_singleton.2 hline
  | ended hline _ _ _ ih => exact List.forall_mem_cons.2 ⟨hline, ih⟩

/-- Lines that are joined with line feeds are a text of them. -/
theorem isText_intercalate {lines : List (List Char)} (h : ∀ line ∈ lines, IsUnbroken line) :
    IsText lines (List.intercalate ['\n'] lines) := by
  induction lines with
  | nil => exact .nil
  | cons line rest ih =>
    obtain ⟨hline, hrest⟩ := List.forall_mem_cons.1 h
    by_cases hend : rest = []
    · subst hend
      rw [List.intercalate_singleton]
      exact .last hline
    · rw [List.intercalate_cons_of_ne_nil hend, List.append_assoc]
      exact .ended hline .lineFeed nofun (ih hrest)

/-! ## Dividing a text

  The reader makes a line feed of every line break and divides the text at these.  It then leaves
  out one empty line at the end: that is all it does about the end of the last line. -/

/-- A character that is no carriage return stays as it is. -/
theorem unifyBreaks_cons_of_ne {c : Char} (h : c ≠ '\r') (rest : List Char) :
    unifyBreaks (c :: rest) = c :: unifyBreaks rest := by
  rw [unifyBreaks]
  · exact fun _ hc _ => h hc
  · exact fun hc => h hc

theorem unifyBreaks_append {line : List Char} (h : '\r' ∉ line) (rest : List Char) :
    unifyBreaks (line ++ rest) = line ++ unifyBreaks rest := by
  induction line with
  | nil => rfl
  | cons c line ih =>
    have hc : c ≠ '\r' := fun heq => h (heq ▸ List.mem_cons_self)
    have hline : '\r' ∉ line := fun hmem => h (List.mem_cons_of_mem c hmem)
    rw [List.cons_append, unifyBreaks_cons_of_ne hc, ih hline, List.cons_append]

/-- Every ending becomes one line feed. -/
theorem unifyBreaks_chars (ending : LineBreak) {rest : List Char}
    (hapart : ending = .carriageReturn → rest.head? ≠ some '\n') :
    unifyBreaks (ending.chars ++ rest) = '\n' :: unifyBreaks rest := by
  cases ending with
  | lineFeed => exact unifyBreaks_cons_of_ne (by decide) rest
  | both => rfl
  -- No line feed follows, so the carriage return is a break by itself.
  | carriageReturn =>
    show unifyBreaks ('\r' :: rest) = _
    rw [unifyBreaks]
    rintro others rfl
    exact hapart rfl rfl

/-- **Dividing a text gives its lines**, and behind them an empty one if the last is ended too. -/
theorem splitWhere_isText {lines : List (List Char)} {text : List Char} (h : IsText lines text) :
    splitWhere (· = '\n') (unifyBreaks text) = lines ++ [[]] ∨
      lines ≠ [] ∧ splitWhere (· = '\n') (unifyBreaks text) = lines := by
  have hkept : ∀ {line : List Char}, IsUnbroken line → ∀ c ∈ line, decide (c = '\n') = false :=
    fun hline c hc => decide_eq_false fun hbreak => hline.2 (hbreak ▸ hc)
  induction h with
  | nil => exact .inl rfl
  | @last line hline =>
    right
    have hwhole := unifyBreaks_append hline.1 []
    rw [List.append_nil] at hwhole
    rw [hwhole, show unifyBreaks [] = [] from rfl, List.append_nil,
      splitWhere_of_kept (hkept hline)]
    exact ⟨List.cons_ne_nil _ _, rfl⟩
  | ended hline ending hapart _ ih =>
    rw [unifyBreaks_append hline.1, unifyBreaks_chars ending hapart,
      splitWhere_append (hkept hline) (decide_eq_true rfl)]
    -- Whether the last line is ended is decided further on.
    rcases ih with ih | ⟨-, ih⟩
    · exact .inl (congrArg _ ih)
    · exact .inr ⟨List.cons_ne_nil _ _, congrArg _ ih⟩

/-- Byte order marks in front of a text stand in front of its first line. -/
theorem IsText.dropMarks {lines : List (List Char)} {text : List Char} (h : IsText lines text) :
    IsText (lines.modifyHead (·.dropWhile (· = byteOrderMark)))
      (text.dropWhile (· = byteOrderMark)) := by
  have hunbroken : ∀ {line : List Char}, IsUnbroken line →
      IsUnbroken (line.dropWhile (· = byteOrderMark)) := fun hline =>
    ⟨fun hmem => hline.1 ((List.dropWhile_sublist _).subset hmem),
      fun hmem => hline.2 ((List.dropWhile_sublist _).subset hmem)⟩
  cases h with
  | nil => exact .nil
  | last hline => exact .last (hunbroken hline)
  | @ended line lines rest hline ending hapart hrest =>
    have hstop : (ending.chars ++ rest).dropWhile (· = byteOrderMark) = ending.chars ++ rest := by
      cases ending <;> exact List.dropWhile_cons_of_neg (by decide)
    have hdrop : (line ++ (ending.chars ++ rest)).dropWhile (· = byteOrderMark) =
        line.dropWhile (· = byteOrderMark) ++ (ending.chars ++ rest) := by
      rw [List.dropWhile_append]
      split
      next hempty => rw [hstop, List.isEmpty_iff.1 hempty, List.nil_append]
      next => rfl
    rw [hdrop]
    exact .ended (hunbroken hline) ending hapart hrest

theorem dropEmptyEnd_concat_nil (lines : List (List Char)) :
    dropEmptyEnd (lines ++ [[]]) = lines := by
  rw [dropEmptyEnd, List.getLast?_concat, if_pos rfl, List.dropLast_concat]

/-- The lines of a text, as the reader takes them: without the byte order marks in front, and with
    or without an empty one at the end. -/
theorem linesOf_isText {lines : List (List Char)} {text : List Char} (h : IsText lines text)
    (marks : Nat) :
    linesOf (List.replicate marks byteOrderMark ++ text) =
        lines.modifyHead (·.dropWhile (· = byteOrderMark)) ∨
      linesOf (List.replicate marks byteOrderMark ++ text) =
        dropEmptyEnd (lines.modifyHead (·.dropWhile (· = byteOrderMark))) := by
  have hmarks : (List.replicate marks byteOrderMark ++ text).dropWhile (· = byteOrderMark) =
      text.dropWhile (· = byteOrderMark) :=
    List.dropWhile_append_of_pos fun c hc => decide_eq_true (List.eq_of_mem_replicate hc)
  rw [linesOf, hmarks]
  rcases splitWhere_isText h.dropMarks with hsplit | ⟨-, hsplit⟩
  · left
    rw [hsplit, dropEmptyEnd_concat_nil]
  · right
    rw [hsplit]

/-! ## An empty line at the end

  The reader cannot tell whether an empty last line was written or comes from the way in which the
  text is ended, and it need not. -/

/-- Nothing that is added to an open block changes what it is told of if it is left open. -/
theorem openFlaw_add (block : OpenBlock) (nodes : List Node) :
    Draft.openFlaw (block.add nodes) = Draft.openFlaw block := by
  obtain ⟨name, line, before, conditionals, pending⟩ := block
  cases conditionals with
  | nil => rfl
  | cons innermost outer =>
    obtain ⟨opened, condition, thenNodes, elseNodes⟩ := innermost
    cases elseNodes <;> rfl

/-- Nor does ending a row of options. -/
theorem openFlaw_flush (block : OpenBlock) : Draft.openFlaw block.flush = Draft.openFlaw block := by
  rw [OpenBlock.flush]
  split
  next => rfl
  next => exact openFlaw_add block [.menu block.pending]

/-- An empty line inside a block is narrative. -/
theorem says_nil (grammar : Grammar) : Says grammar [] (.narrative [{ content := "" }]) :=
  .narrative rfl rfl

/-- A file that ends with an empty line is finished like one that ends before it. -/
theorem finish_takeLine_nil (grammar : Grammar) (fileId : String) (draft : Draft) (number : Nat) :
    ∃ next, draft.takeLine grammar number [] = .ok next ∧
      next.finish fileId = draft.finish fileId := by
  obtain ⟨blocks, entry, current⟩ := draft
  cases current with
  | none => exact ⟨_, Draft.takeLine_of_idle rfl (.inl rfl), rfl⟩
  -- The block is open on both sides, and it is told of at the line that opened it.
  | some block =>
    have hline := @Draft.takeLine_inside grammar { blocks, entry } block number _ _
      (says_nil grammar)
    have hflaw := (openFlaw_add block.flush [.text { content := "" }]).trans (openFlaw_flush block)
    exact ⟨_, hline, congrArg Except.error hflaw⟩

/-- **An empty line at the end of a file says nothing.** -/
theorem readLines_dropEmptyEnd (grammar : Grammar) (fileId : String) (lines : List (List Char)) :
    readLines grammar fileId (dropEmptyEnd lines) = readLines grammar fileId lines := by
  by_cases hlast : lines.getLast? = some []
  · obtain ⟨earlier, rfl⟩ := List.getLast?_eq_some_iff.1 hlast
    rw [dropEmptyEnd_concat_nil, readLines, readLines, Draft.takeLines_append]
    cases Draft.takeLines grammar {} 1 earlier with
    | error flaw => rfl
    | ok draft =>
      obtain ⟨next, hnext, hfinish⟩ :=
        finish_takeLine_nil grammar fileId draft (1 + earlier.length)
      rw [Except.bind, Draft.takeLines_of_ok hnext]
      exact hfinish.symm
  · rw [dropEmptyEnd, if_neg hlast]

/-! ## Reading -/

/-- The reader looks at nothing of a text but its lines. -/
theorem readLines_isText {lines : List (List Char)} {text : List Char} (h : IsText lines text)
    (grammar : Grammar) (fileId : String) (marks : Nat) :
    readLines grammar fileId (linesOf (List.replicate marks byteOrderMark ++ text)) =
      readLines grammar fileId (lines.modifyHead (·.dropWhile (· = byteOrderMark))) := by
  rcases linesOf_isText h marks with hlines | hlines
  · rw [hlines]
  · rw [hlines, readLines_dropEmptyEnd]

/-- **Line breaks do not matter.** However the lines of a text are ended, the last of them or not,
    and however many byte order marks stand in front: the text is read as the same story, or is
    refused with the same error, as its lines joined with line feeds. -/
theorem readStory_of_isText {lines : List (List Char)} {text : List Char} (h : IsText lines text)
    (grammar : Grammar) (fileId : String) (marks : Nat) :
    readStory grammar fileId (String.ofList (List.replicate marks byteOrderMark ++ text)) =
      readStory grammar fileId (String.ofList (List.intercalate ['\n'] lines)) := by
  have hjoined := readLines_isText (isText_intercalate h.isUnbroken) grammar fileId 0
  rw [List.replicate_zero, List.nil_append] at hjoined
  rw [readStory, readStory, String.toList_ofList, String.toList_ofList,
    readLines_isText h grammar fileId marks, hjoined]

theorem readStory_of_isText_mixed :
    readStory {} "cave" "\ufeff@block mouth\r\nDark.\r\r\n@end\n\n" =
      readStory {} "cave" "@block mouth\nDark.\n\n@end\n" := by
  have hunbroken : ∀ {line : List Char}, (line.contains '\r' || line.contains '\n') = false →
      IsUnbroken line := by
    intro line hnone
    rw [Bool.or_eq_false_iff] at hnone
    exact ⟨by simpa using hnone.1, by simpa using hnone.2⟩
  have htext : IsText ["@block mouth".toList, "Dark.".toList, [], "@end".toList, []]
      "@block mouth\r\nDark.\r\r\n@end\n\n".toList :=
    .ended (hunbroken rfl) .both nofun <|
      .ended (hunbroken rfl) .carriageReturn (by decide) <|
      .ended (hunbroken rfl) .both nofun <|
      .ended (hunbroken rfl) .lineFeed nofun <|
      .ended (hunbroken rfl) .lineFeed nofun .nil
  exact readStory_of_isText htext {} "cave" 1

end Gamebook.Markup
