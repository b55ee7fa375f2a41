/-
  No text that a play shows holds a line feed.

  A file is divided into lines at its line feeds, and what is shown of a line are characters of the
  line.  Where a line ends, a play does not show a line feed but says so (`Shown.lineEnd`).  So
  whatever the files hold, a console that is handed what a play has shown writes a line feed only by
  itself.

  * `isUnbroken_of_readStory`: the text of a story that was read, at every depth.
  * `Play.IsUnbroken`: the text that a play has at hand, and the text that it has shown.  Passing a
    node keeps it so, because what is shown and the branch that is opened were at hand before
    (`coversNodes_unbroken`); so runs, starts and choices keep it, too.
  * `Console.display_unbroken`: what a console writes for it, in either mode and in any colour.
-/
import Gamebook.Proofs.Histories
import Gamebook.Proofs.NarrativeRoundTrip
import Gamebook.Proofs.TextModes
import Gamebook.Proofs.TextPieces

namespace Gamebook

open Markup

/-! ## The text of a story

  What is claimed of the text is claimed of single runs, because they are what is shown.  The lines
  of a file hold no line feed by the way they are divided, the runs of a line show characters of the
  line only, and the grammar of blocks says which nodes come from which lines. -/

/-- The text of the node, at every depth, holds no line feed. -/
inductive Node.IsUnbroken : Node → Prop
  | text {run : TextRun} (h : '\n' ∉ run.content.toList) : IsUnbroken (.text run)
  | change (change : StateChange) : IsUnbroken (.change change)
  | menu (choices : List Choice) : IsUnbroken (.menu choices)
  | jump (destination : Destination) : IsUnbroken (.jump destination)
  | conditional {condition : Condition} {thenNodes elseNodes : List Node}
      (hthen : ∀ node ∈ thenNodes, IsUnbroken node) (helse : ∀ node ∈ elseNodes, IsUnbroken node) :
      IsUnbroken (.conditional condition thenNodes elseNodes)

namespace Markup

/-- The runs of a line show no character that the line does not have. -/
theorem not_mem_of_readNarrative {grammar : Grammar} {line : List Char} {runs : List TextRun}
    (h : readNarrative grammar line = .ok runs) {c : Char} (hc : c ∉ line) :
    ∀ run ∈ runs, c ∉ run.content.toList := by
  obtain ⟨column, inner, hinner, -, rfl⟩ := exists_spanRuns h
  -- A line without runs is shown as one empty run.
  by_cases hsome : inner = []
  · intro run hmem
    rw [hsome] at hmem
    rw [List.mem_singleton.1 hmem]
    exact List.not_mem_nil
  · exact forall_endLine (p := fun face => c ∉ face.1.toList) hsome
      fun run hmem hshown => hc (mem_of_mem_content hinner hmem hshown)

/-- The nodes of some lines, by the grammar of what stands between the lines of a block. -/
theorem Items.isUnbroken {grammar : Grammar} {lines : List (List Char)} {nodes : List Node}
    (h : Items grammar lines nodes) (hlines : ∀ line ∈ lines, '\n' ∉ line) :
    ∀ node ∈ nodes, node.IsUnbroken := by
  induction h with
  | nil => exact List.forall_mem_nil _
  | narrative hline _ ih =>
    obtain ⟨hfirst, hrest⟩ := List.forall_mem_cons.1 hlines
    refine List.forall_mem_append.2 ⟨fun node hmem => ?_, ih hrest⟩
    obtain ⟨run, hrun, rfl⟩ := List.mem_map.1 hmem
    exact .text (not_mem_of_readNarrative (isNarrative_of_narrative hline).2 hfirst run hrun)
  | change _ _ ih =>
    exact List.forall_mem_cons.2 ⟨.change _, ih (List.forall_mem_cons.1 hlines).2⟩
  | jump _ _ ih => exact List.forall_mem_cons.2 ⟨.jump _, ih (List.forall_mem_cons.1 hlines).2⟩
  | menu _ _ _ _ ih =>
    exact List.forall_mem_cons.2 ⟨.menu _, ih (List.forall_mem_append.1 hlines).2⟩
  -- Without an else-line there is nothing to be walked when the condition is false.
  | conditional _ _ _ _ ihbody ihrest =>
    obtain ⟨hfront, hback⟩ := List.forall_mem_append.1 hlines
    have hbody := ihbody (List.forall_mem_cons.1 hfront).2
    exact List.forall_mem_cons.2
      ⟨.conditional hbody (List.forall_mem_nil _), ihrest (List.forall_mem_cons.1 hback).2⟩
  | conditionalElse _ _ _ _ _ _ ihbody ihothers ihrest =>
    obtain ⟨hfront, hback⟩ := List.forall_mem_append.1 hlines
    obtain ⟨hopened, hdivided⟩ := List.forall_mem_append.1 hfront
    have hbody := ihbody (List.forall_mem_cons.1 hopened).2
    have hothers := ihothers (List.forall_mem_cons.1 hdivided).2
    exact List.forall_mem_cons.2
      ⟨.conditional hbody hothers, ihrest (List.forall_mem_cons.1 hback).2⟩

/-- The nodes of all blocks of a file, by the grammar of files. -/
theorem Parts.isUnbroken {grammar : Grammar} {number : Nat} {lines : List (List Char)}
    {blocks : List Block} {entries : List String} (h : Parts grammar number lines blocks entries)
    (hlines : ∀ line ∈ lines, '\n' ∉ line) :
    ∀ block ∈ blocks, ∀ node ∈ block.nodes, node.IsUnbroken := by
  induction h with
  | nil => exact List.forall_mem_nil _
  | idle _ _ ih => exact ih (List.forall_mem_cons.1 hlines).2
  | entry _ _ ih => exact ih (List.forall_mem_cons.1 hlines).2
  | block _ hbody _ _ ih =>
    obtain ⟨hfront, hback⟩ := List.forall_mem_append.1 hlines
    exact List.forall_mem_cons.2 ⟨hbody.isUnbroken (List.forall_mem_cons.1 hfront).2,
      ih (List.forall_mem_cons.1 hback).2⟩

/-- **The text of a story that was read holds no line feed**, whatever the file holds. -/
theorem isUnbroken_of_readStory {grammar : Grammar} {fileId text : String} {story : Story}
    (h : readStory grammar fileId text = .ok story) :
    ∀ block ∈ story.blocks, ∀ node ∈ block.nodes, node.IsUnbroken := by
  obtain ⟨blocks, entries, hparts, -, -, -, rfl⟩ := isStory_of_readStory h
  exact hparts.isUnbroken fun line hmem => (not_mem_of_mem_linesOf hmem).1

end Markup

/-! ## Looking up -/

namespace Library

/-- The text of a scene that is found holds no line feed. -/
theorem IsParsed.unbroken {library : Library} (h : library.IsParsed) {destination : Destination}
    {currentFile : String} {outcome : Outcome ResolutionError Scene}
    (hresolve : library.resolve destination currentFile = .ok outcome) {scene : Scene}
    (hscene : outcome.result = .ok scene) : ∀ node ∈ scene.block.nodes, node.IsUnbroken := by
  obtain ⟨grammar, id, text, story, hread, hmem⟩ := (h.resolve hresolve).2 scene hscene
  exact isUnbroken_of_readStory hread scene.block hmem

end Library

/-! ## The play

  The text at hand is that of the cursors, which is a part of the block that was entered last.  It
  has to be claimed together with what was shown, for what is shown next comes from there.  The
  library comes in as the place where further text can come from. -/

/-- It is the end of a line, or text without a line feed. -/
def Shown.IsUnbroken : Shown → Prop
  | .text content _ => '\n' ∉ content.toList
  | .lineEnd => True

namespace Play

/-- The text at hand and the text that was shown hold no line feed. -/
structure IsUnbroken (play : Play) : Prop where
  library : play.library.IsParsed
  nodes : ∀ cursor ∈ play.cursors, ∀ node ∈ cursor.nodes, node.IsUnbroken
  shown : ∀ event ∈ play.shown, event.IsUnbroken

variable {play : Play}

theorem isUnbroken_fresh {library : Library} (h : library.IsParsed) (state : State) :
    (fresh library state).IsUnbroken := ⟨h, List.forall_mem_nil _, List.forall_mem_nil _⟩

/-- A node that is taken was at hand. -/
theorem isUnbroken_of_takeNode {cursors rest : List Cursor} {node : Node}
    (hnodes : ∀ cursor ∈ cursors, ∀ node ∈ cursor.nodes, node.IsUnbroken)
    (h : Cursor.takeNode cursors = some (node, rest)) :
    node.IsUnbroken ∧ ∀ cursor ∈ rest, ∀ node ∈ cursor.nodes, node.IsUnbroken := by
  induction cursors with
  | nil => cases h
  | cons cursor outer ih =>
    obtain ⟨hfirst, houter⟩ := List.forall_mem_cons.1 hnodes
    rw [Cursor.takeNode] at h
    cases hnext : cursor.next? with
    | none =>
      rw [hnext] at h
      exact ih houter h
    | some next =>
      rw [hnext] at h
      cases h
      exact ⟨hfirst node (List.mem_of_getElem? hnext), List.forall_mem_cons.2 ⟨hfirst, houter⟩⟩

/-- What a node shows is its own text. -/
theorem isUnbroken_events {node : Node} (h : node.IsUnbroken) (before : Play) :
    ∀ event ∈ Passage.events ⟨node, before⟩, event.IsUnbroken := by
  cases h with
  | @text run hrun =>
    show ∀ event ∈ run.events, event.IsUnbroken
    rw [TextRun.events]
    split
    next => exact List.forall_mem_cons.2 ⟨trivial, List.forall_mem_singleton.2 hrun⟩
    next => exact List.forall_mem_singleton.2 hrun
  | _ => exact List.forall_mem_nil _

/-- The branch that a conditional opens is part of it. -/
theorem isUnbroken_of_opens {node : Node} (h : node.IsUnbroken) {branch : List Cursor}
    (hopens : node.Opens branch) :
    ∀ cursor ∈ branch, ∀ node ∈ cursor.nodes, node.IsUnbroken := by
  cases hopens with
  | nothing node => exact List.forall_mem_nil _
  | thenNodes condition thenNodes elseNodes =>
    cases h with
    | conditional hthen helse => exact List.forall_mem_singleton.2 hthen
  | elseNodes condition thenNodes elseNodes =>
    cases h with
    | conditional hthen helse => exact List.forall_mem_singleton.2 helse

/-- **Whatever moves a play leaves its text unbroken.** -/
theorem coversNodes_unbroken : (History.keeps IsUnbroken).CoversNodes where
  refl _ h := h
  trans hfirst hlater h := hlater (hfirst h)
  aside haside h := by
    refine ⟨?_, ?_, ?_⟩
    · rw [haside.library]
      exact h.library
    · rcases haside.cursors with hsame | hnone
      · rw [hsame]
        exact h.nodes
      · rw [hnone]
        exact List.forall_mem_nil _
    · rw [haside.shown]
      exact h.shown
  supply hparsed _ h := ⟨hparsed h.library, h.nodes, h.shown⟩
  arrive hresolve hscene h :=
    ⟨(h.library.resolve hresolve).1,
      List.forall_mem_singleton.2 (h.library.unbroken hresolve hscene), h.shown⟩
  pass htake hopens h := by
    obtain ⟨hnode, hrest⟩ := isUnbroken_of_takeNode h.nodes htake
    exact ⟨h.library, List.forall_mem_append.2 ⟨isUnbroken_of_opens hnode hopens, hrest⟩,
      List.forall_mem_append.2 ⟨isUnbroken_events hnode _, h.shown⟩⟩
  gameOver _ h := ⟨h.library, List.forall_mem_nil _, h.shown⟩

end Play

/-! ## The console

  What a console writes beside the text it is handed are escape sequences for colours and the line
  feeds of its own.  A sequence holds digits and no line feed (`not_mem_colorSequence`), so a line
  feed stands alone in what is written, or there is none. -/

/-- What is written, if anything is, is a line feed or has none. -/
def ConsoleAct.IsUnbroken : ConsoleAct → Prop
  | .write text => text = "\n" ∨ '\n' ∉ text.toList
  | .flush | .pause _ => True

namespace Console

variable (console : Console)

/-- Sequences that switch colours hold no line feed. -/
theorem not_mem_colorSequence (number : Nat) : '\n' ∉ (colorSequence number).toList := by
  rw [Terminal.toList_colorSequence]
  intro hmem
  have hdigit : '\n' ∈ Text.writeNatural number := by simpa using hmem
  exact absurd (Text.isDigit_of_mem_writeNatural hdigit) (by decide)

/-- So text that is painted has one only if it had one before. -/
theorem not_mem_paint {text : String} (h : '\n' ∉ text.toList) (color : Option String) :
    '\n' ∉ (console.paint text color).toList := by
  rw [paint]
  split
  next =>
    rw [colorize]
    split
    next => exact h
    next number _ =>
      split
      next => exact h
      next =>
        rw [String.toList_append, String.toList_append, List.mem_append, List.mem_append]
        rintro ((hmem | hmem) | hmem)
        · exact not_mem_colorSequence number hmem
        · exact h hmem
        · exact not_mem_colorSequence 0 hmem
  next => exact h

/-- Whether written at once or character by character, such text holds none. -/
theorem writeOut_unbroken {text : String} (h : '\n' ∉ text.toList) (color : Option String) :
    ∀ act ∈ console.writeOut text color, act.IsUnbroken := by
  rw [writeOut]
  cases console.mode with
  | instant =>
    exact List.forall_mem_cons.2
      ⟨.inr (not_mem_paint console h color), List.forall_mem_singleton.2 trivial⟩
  | typewriter =>
    dsimp only
    rw [typeOut]
    refine List.forall_mem_flatMap.2 fun c hc => ?_
    have hchar : '\n' ∉ (String.ofList [c]).toList := by
      rw [String.toList_ofList, List.mem_singleton]
      rintro rfl
      exact h hc
    exact List.forall_mem_cons.2 ⟨.inr (not_mem_paint console hchar color),
      List.forall_mem_cons.2 ⟨trivial, List.forall_mem_singleton.2 trivial⟩⟩

/-- **A console writes a line feed by itself or not at all**, if it is handed what a play shows. -/
theorem display_unbroken {event : Shown} (h : event.IsUnbroken) :
    ∀ act ∈ (console.display event).2, act.IsUnbroken := by
  cases event with
  | text content color =>
    rw [display, render_eq]
    refine List.forall_mem_append.2 ⟨?_, writeOut_unbroken _ h _⟩
    split
    next => exact List.forall_mem_singleton.2 (.inl rfl)
    next => exact List.forall_mem_nil _
  | lineEnd =>
    rw [display, endLine]
    cases console.mode with
    | instant =>
      exact List.forall_mem_cons.2 ⟨.inl rfl, List.forall_mem_singleton.2 trivial⟩
    | typewriter =>
      exact List.forall_mem_cons.2
        ⟨.inl rfl, List.forall_mem_cons.2 ⟨trivial, List.forall_mem_singleton.2 trivial⟩⟩

end Console
end Gamebook
