/-
  Lines are ended before a play pauses.

  A play shows its text run by run, and a line of a story file may have several runs.  Still a
  reader who is asked for a choice, or told that the story is over, never stands in the middle of a
  line.  Two facts make it so:

  1. **The nodes of a file** (`InLines`).  The runs of one line stand next to each other, the last
     of them ends the line, and no other does.  So between two runs of a line there is no menu, no
     jump, no change of the state, and no end of a block or of a branch.

  2. **The walk** (`Play.KeepsLines`).  What a play has ahead of it goes on with the line that is
     open, if one is.  Passing a node preserves this: text opens a line or ends it, and any other
     node comes only when no line is open, so a branch may be put on the stack, or another block put
     in place of it.  A run stops in front of a line that is open only when its steps are used up.

  A console that is handed what was shown begins a line after each end of one, so it is at the start
  of a line when the menu or the parting words are printed (`linesEnded`).
-/
import Gamebook.Proofs.Histories
import Gamebook.Proofs.LookUp
import Gamebook.Proofs.NarrativeText
import Gamebook.Proofs.ParsedLibrary
import Gamebook.Proofs.SessionEnd
import Mathlib.Data.List.Infix

namespace Gamebook

open Markup

/-! ## The lines of a file

  `InLines` is about all nodes of a row and at every depth, but only text says anything of lines;
  the other nodes come where no line is open and leave none open.  The flag in front tells whether a
  line is open when the row begins.  It has to be there, because what a cursor has ahead of it may
  begin in the middle of a line, while a block and a branch begin with a new one. -/

/-- The last of the runs, and no other, ends the line. -/
inductive IsLine : List TextRun → Prop
  | last {run : TextRun} (hends : run.endsLine = true) : IsLine [run]
  | cons {run : TextRun} {rest : List TextRun} (hinner : run.endsLine = false)
      (hrest : IsLine rest) : IsLine (run :: rest)

/-- The text among the nodes, at every depth, goes on with the line that is open, if one is, and
    comes in whole lines after it. -/
inductive InLines : (isOpen : Bool) → List Node → Prop
  | nil : InLines false []
  | text {isOpen : Bool} {run : TextRun} {rest : List Node}
      (hrest : InLines (!run.endsLine) rest) : InLines isOpen (.text run :: rest)
  | change {change : StateChange} {rest : List Node} (hrest : InLines false rest) :
      InLines false (.change change :: rest)
  | menu {choices : List Choice} {rest : List Node} (hrest : InLines false rest) :
      InLines false (.menu choices :: rest)
  | jump {destination : Destination} {rest : List Node} (hrest : InLines false rest) :
      InLines false (.jump destination :: rest)
  | conditional {condition : Condition} {thenNodes elseNodes rest : List Node}
      (hthen : InLines false thenNodes) (helse : InLines false elseNodes)
      (hrest : InLines false rest) :
      InLines false (.conditional condition thenNodes elseNodes :: rest)

namespace Markup

/-- The reader marks the last run of a line as its end. By induction on the runs: it goes past each
    run that has another one behind it. -/
theorem isLine_endLine {runs : List TextRun} (h : ∀ run ∈ runs, run.endsLine = false) :
    IsLine (endLine runs) := by
  induction runs with
  | nil => exact .last rfl
  | cons run rest ih =>
    cases rest with
    | nil => exact .last rfl
    | cons next rest =>
      have htail := ih fun other hother => h other (List.mem_cons_of_mem _ hother)
      exact .cons (h run List.mem_cons_self) htail

/-- The runs of a narrative line are one line. -/
theorem isLine_of_readNarrative {grammar : Grammar} {line : List Char} {runs : List TextRun}
    (h : readNarrative grammar line = .ok runs) : IsLine runs := by
  obtain ⟨inner, hinner, rfl⟩ := map_eq_ok_iff.1 h
  exact isLine_endLine (written_of_spanRuns hinner).2

end Markup

/-- A line in front of lines; it may go on with one that is open already. -/
theorem InLines.line {runs : List TextRun} {nodes : List Node} (hline : IsLine runs)
    (h : InLines false nodes) (isOpen : Bool) : InLines isOpen (runs.map .text ++ nodes) := by
  induction hline generalizing isOpen with
  | last hends =>
    refine .text ?_
    rw [hends]
    exact h
  | cons hinner _ ih =>
    refine .text ?_
    rw [hinner]
    exact ih true

namespace Markup

/-- The nodes of some lines of a block: a line of text is a line, and any other node comes between
    lines. -/
theorem Items.inLines {grammar : Grammar} {lines : List (List Char)} {nodes : List Node}
    (h : Items grammar lines nodes) : InLines false nodes := by
  induction h with
  | nil => exact .nil
  | narrative hline _ ih =>
    exact .line (isLine_of_readNarrative (isNarrative_of_narrative hline).2) ih false
  | change _ _ ih => exact .change ih
  | jump _ _ ih => exact .jump ih
  | menu _ _ _ _ ih => exact .menu ih
  | conditional _ _ _ _ ihbody ihrest => exact .conditional ihbody .nil ihrest
  | conditionalElse _ _ _ _ _ _ ihbody ihothers ihrest =>
    exact .conditional ihbody ihothers ihrest

/-- The nodes of every block of a file. -/
theorem Parts.inLines {grammar : Grammar} {number : Nat} {lines : List (List Char)}
    {blocks : List Block} {entries : List String} (h : Parts grammar number lines blocks entries) :
    ∀ block ∈ blocks, InLines false block.nodes := by
  induction h with
  | nil => exact nofun
  | idle _ _ ih => exact ih
  | entry _ _ ih => exact ih
  | block _ hbody _ _ ih => exact List.forall_mem_cons.2 ⟨hbody.inLines, ih⟩

/-- **The text of a story that was read comes in whole lines.** -/
theorem inLines_of_readStory {grammar : Grammar} {fileId text : String} {story : Story}
    (h : readStory grammar fileId text = .ok story) :
    ∀ block ∈ story.blocks, InLines false block.nodes := by
  obtain ⟨blocks, entries, hparts, -, -, -, rfl⟩ := isStory_of_readStory h
  exact hparts.inLines

end Markup

/-! ## Looking up -/

namespace Library

/-- The text of a scene that is found comes in lines. -/
theorem IsParsed.inLines {library : Library} (h : library.IsParsed) {destination : Destination}
    {currentFile : String} {outcome : Outcome ResolutionError Scene}
    (hresolve : library.resolve destination currentFile = .ok outcome) {scene : Scene}
    (hscene : outcome.result = .ok scene) : InLines false scene.block.nodes := by
  obtain ⟨grammar, id, text, story, hread, hmem⟩ := (h.resolve hresolve).2 scene hscene
  exact inLines_of_readStory hread scene.block hmem

end Library

/-! ## The walk

  There are two invariants.  `KeepsLines` holds at every moment between two nodes, in the middle of
  a line, too.  `IsBetweenLines` is what it comes to when no line is open, and it is all that jumps,
  menus, starts and choices need and keep: where a play goes next is decided between lines. -/

/-- A line has been begun and not ended, by what was shown, the newest first. -/
def lineOpen : List Shown → Bool
  | .text .. :: _ => true
  | .lineEnd :: _ | [] => false

/-- No line is open at the very beginning, and after the end of a line. -/
theorem lineOpen_eq_false_iff {shown : List Shown} :
    lineOpen shown = false ↔ shown = [] ∨ shown.head? = some .lineEnd := by
  cases shown with
  | nil => exact ⟨fun _ => .inl rfl, fun _ => rfl⟩
  | cons event rest =>
    cases event with
    | text content color => exact ⟨nofun, by rintro (h | h) <;> cases h⟩
    | lineEnd => exact ⟨fun _ => .inr rfl, fun _ => rfl⟩

/-- What the innermost cursor has ahead of it goes on with the line that is open, if one is; the
    others come in whole lines, and no line is open where there are no cursors. -/
def Cursor.InLines (isOpen : Bool) : List Cursor → Prop
  | [] => isOpen = false
  | innermost :: outer =>
    Gamebook.InLines isOpen innermost.ahead ∧ ∀ cursor ∈ outer, Gamebook.InLines false cursor.ahead

namespace Cursor

/-- Taking a node leaves the others as they were. -/
theorem InLines.takeNode {isOpen : Bool} {cursors rest : List Cursor} {node : Node}
    (h : InLines isOpen cursors) (htake : takeNode cursors = some (node, rest)) :
    ∃ innermost outer, rest = innermost :: outer ∧
      Gamebook.InLines isOpen (node :: innermost.ahead) ∧
      ∀ cursor ∈ outer, Gamebook.InLines false cursor.ahead := by
  induction cursors generalizing isOpen with
  | nil => cases htake
  | cons cursor outer ih =>
    obtain ⟨hinner, houter⟩ := h
    rw [Cursor.takeNode] at htake
    split at htake
    next taken hnext =>
      cases htake
      rw [ahead_of_next hnext] at hinner
      exact ⟨cursor.advance, outer, rfl, hinner, houter⟩
    next hnext =>
      -- A cursor that has passed all its nodes leaves no line open.
      rw [ahead_of_next_none hnext] at hinner
      cases hinner
      refine ih ?_ htake
      cases outer with
      | nil => rfl
      | cons next others => exact List.forall_mem_cons.1 houter

/-- Where all nodes are passed, no line is open. -/
theorem InLines.exhausted {isOpen : Bool} {cursors : List Cursor} (h : InLines isOpen cursors)
    (htake : Cursor.takeNode cursors = none) : isOpen = false := by
  cases cursors with
  | nil => exact h
  | cons cursor outer =>
    obtain ⟨hinner, -⟩ := h
    rw [Cursor.takeNode] at htake
    split at htake
    next => cases htake
    next hnext =>
      rw [ahead_of_next_none hnext] at hinner
      cases hinner
      rfl

end Cursor

namespace Play

variable {play : Play}

/-- What is ahead goes on with the line that is open, and while one is the play runs. -/
structure KeepsLines (play : Play) : Prop where
  library : play.library.IsParsed
  cursors : Cursor.InLines (lineOpen play.shown) play.cursors
  running : lineOpen play.shown = true → play.status.isRunning = true

/-- Every line that was begun is ended, and what is ahead comes in whole lines. -/
structure IsBetweenLines (play : Play) : Prop where
  library : play.library.IsParsed
  ended : lineOpen play.shown = false
  cursors : Cursor.InLines false play.cursors

theorem isBetweenLines_fresh {library : Library} (h : library.IsParsed) (state : State) :
    (fresh library state).IsBetweenLines := ⟨h, rfl, rfl⟩

/-- Between lines, a play keeps its lines. -/
theorem IsBetweenLines.keepsLines (h : play.IsBetweenLines) : play.KeepsLines where
  library := h.library
  cursors := by
    rw [h.ended]
    exact h.cursors
  running := by
    rw [h.ended]
    exact nofun

/-- A play that keeps its lines and has none open is between lines. -/
theorem KeepsLines.isBetweenLines (h : play.KeepsLines) (hended : lineOpen play.shown = false) :
    play.IsBetweenLines where
  library := h.library
  ended := hended
  cursors := by
    have hcursors := h.cursors
    rwa [hended] at hcursors

/-- A play that does not run is between lines. -/
theorem KeepsLines.stopped (h : play.KeepsLines) (hstop : ¬ play.status.isRunning = true) :
    play.IsBetweenLines :=
  h.isBetweenLines (Bool.eq_false_iff.2 fun hopen => hstop (h.running hopen))

theorem isBetweenLines_halt (hlibrary : play.library.IsParsed)
    (hended : lineOpen play.shown = false) (halt : Halt) : (play.halt halt).IsBetweenLines :=
  ⟨hlibrary, hended, rfl⟩

/-- **Between lines a play can be moved about**: nothing but passing a node begins a line, and any
    block that is entered comes in whole lines. -/
theorem coversMoves_betweenLines : (History.keeps IsBetweenLines).CoversMoves where
  refl _ h := h
  trans hfirst hlater h := hlater (hfirst h)
  aside haside h := by
    refine ⟨?_, ?_, ?_⟩
    · rw [haside.library]
      exact h.library
    · rw [haside.shown]
      exact h.ended
    · rcases haside.cursors with hsame | hnone
      · rw [hsame]
        exact h.cursors
      · rw [hnone]
        exact rfl
  supply hparsed _ h := ⟨hparsed h.library, h.ended, h.cursors⟩
  arrive hresolve hscene h :=
    ⟨(h.library.resolve hresolve).1, h.ended, h.library.inLines hresolve hscene,
      List.forall_mem_nil _⟩

/-- Bringing the status up to date leaves the text and the cursors as they are. -/
theorem KeepsLines.refresh (h : play.KeepsLines) : play.refresh.KeepsLines := by
  rw [Play.refresh]
  split
  next => exact ⟨h.library, h.cursors, fun _ => rfl⟩
  next => exact h

/-! ## Steps

  Text is the only node that can be taken in the middle of a line, and it has no fault.  All others
  are taken between lines and leave the play there, whether they have a fault or not.  So a step
  that has a fault ends between lines, too, and that is what a run needs that has to end there. -/

/-- Text opens a line or goes on with one, and ends it if it is the last of it. -/
theorem keepsLines_display (hlibrary : play.library.IsParsed)
    (hrun : play.status.isRunning = true) {run : TextRun} {innermost : Cursor}
    {outer : List Cursor} (hcursors : play.cursors = innermost :: outer)
    (hinner : InLines (!run.endsLine) innermost.ahead)
    (houter : ∀ cursor ∈ outer, InLines false cursor.ahead) :
    (play.display run).KeepsLines := by
  have hopen : lineOpen (play.display run).shown = !run.endsLine := by
    rw [display]
    cases run.endsLine <;> rfl
  refine ⟨hlibrary, ?_, fun _ => hrun⟩
  show Cursor.InLines (lineOpen (play.display run).shown) play.cursors
  rw [hopen, hcursors]
  exact ⟨hinner, houter⟩

/-- A branch is walked by a cursor of its own; no line is open when it is taken. -/
theorem isBetweenLines_branch {condition : Condition} {thenNodes elseNodes : List Node}
    (h : play.IsBetweenLines) (hrun : play.cursors ≠ []) (hthen : InLines false thenNodes)
    (helse : InLines false elseNodes) :
    (play.execute (.conditional condition thenNodes elseNodes)).1.IsBetweenLines := by
  have houter : ∀ cursor ∈ play.cursors, InLines false cursor.ahead := by
    have hcursors := h.cursors
    cases hstack : play.cursors with
    | nil => exact absurd hstack hrun
    | cons innermost outer =>
      rw [hstack] at hcursors
      exact List.forall_mem_cons.2 hcursors
  rw [execute]
  cases condition.evaluate play.state with
  | error fault => exact h
  | ok truth =>
    have hbranch : InLines false (if truth then thenNodes else elseNodes) := by
      cases truth
      · exact helse
      · exact hthen
    dsimp only
    generalize (if truth then thenNodes else elseNodes) = branch at hbranch
    cases branch with
    | nil => exact h
    | cons node rest => exact ⟨h.library, h.ended, hbranch, houter⟩

/-- **The step lemma**: a node that is taken from what is ahead leaves the play keeping its lines.
    Only text is taken while a line is open, so a node that has a fault is not. -/
theorem execute_keepsLines (hlibrary : play.library.IsParsed)
    (hrun : play.status.isRunning = true) {node : Node} {innermost : Cursor}
    {outer : List Cursor} (hcursors : play.cursors = innermost :: outer)
    (hinner : InLines (lineOpen play.shown) (node :: innermost.ahead))
    (houter : ∀ cursor ∈ outer, InLines false cursor.ahead) :
    (play.execute node).1.KeepsLines ∧
      ((play.execute node).2 ≠ none → lineOpen (play.execute node).1.shown = false) := by
  -- Every node but text is taken between lines, and leaves the play between lines.
  have hbetween : lineOpen play.shown = false → InLines false innermost.ahead →
      play.IsBetweenLines := by
    intro hended hrest
    refine ⟨hlibrary, hended, ?_⟩
    rw [hcursors]
    exact ⟨hrest, houter⟩
  have hkeeps : ∀ {next : Play} {fault : Option Fault}, next.IsBetweenLines →
      next.KeepsLines ∧ (fault ≠ none → lineOpen next.shown = false) :=
    fun h => ⟨h.keepsLines, fun _ => h.ended⟩
  -- From here on the cases are those of `InLines`: it tells for each node whether a line is open.
  generalize hopen : lineOpen play.shown = isOpen at hinner
  cases hinner with
  | text hrest =>
    exact ⟨keepsLines_display hlibrary hrun hcursors hrest houter, fun h => absurd rfl h⟩
  | change hrest =>
    have h := hbetween hopen hrest
    rw [execute]
    split
    next => exact hkeeps h
    next state _ =>
      have hstate : { play with state }.IsBetweenLines := ⟨h.library, h.ended, h.cursors⟩
      apply hkeeps
      dsimp only
      split
      next => exact isBetweenLines_halt hstate.library hstate.ended .gameOver
      next => exact hstate
  | menu hrest =>
    exact hkeeps (coversMoves_betweenLines.aside (isAside_offer play _) (hbetween hopen hrest))
  | jump hrest => exact hkeeps (coversMoves_betweenLines.transfer play _ (hbetween hopen hrest))
  | conditional hthen helse hrest =>
    refine hkeeps (isBetweenLines_branch (hbetween hopen hrest) ?_ hthen helse)
    rw [hcursors]
    exact List.cons_ne_nil _ _

/-- A step keeps the lines of the play, and if it has a fault, then the play is between lines. Where
    no node is left, nothing is open, so the play may halt. -/
theorem step_keepsLines (h : play.KeepsLines) :
    play.step.1.KeepsLines ∧
      (play.step.2 ≠ none → lineOpen play.step.1.shown = false) := by
  by_cases hrun : play.status.isRunning = true
  · cases htake : Cursor.takeNode play.cursors with
    | none =>
      rw [step_of_exhausted hrun htake]
      have hended := h.cursors.exhausted htake
      exact ⟨(isBetweenLines_halt h.library hended _).keepsLines, fun hfault => absurd rfl hfault⟩
    | some taken =>
      obtain ⟨node, cursors⟩ := taken
      obtain ⟨innermost, outer, rfl, hinner, houter⟩ := h.cursors.takeNode htake
      have hnode := @execute_keepsLines { play with cursors := innermost :: outer } h.library hrun
        node innermost outer rfl hinner houter
      rw [step, if_pos hrun, htake]
      dsimp only
      cases hexecute : Play.execute { play with cursors := innermost :: outer } node with
      | mk next fault =>
        rw [hexecute] at hnode
        cases fault with
        | none => exact ⟨hnode.1.refresh, fun hfault => absurd rfl hfault⟩
        | some fault => exact hnode
  · rw [step, if_neg hrun]
    exact ⟨h, fun hfault => absurd rfl hfault⟩

end Play

/-- The play has halted because its steps were used up. -/
def Status.isStepLimit : Status → Bool
  | .halted (.stepLimit _) => true
  | _ => false

namespace Play

variable {play : Play}

/-- The play is between lines, unless its steps were used up. -/
def Pauses (play : Play) : Prop := play.status.isStepLimit = true ∨ play.IsBetweenLines

/-- **The run lemma**: a run stops between lines, unless its steps are used up. -/
theorem runSteps_pauses (h : play.KeepsLines) (limit : Int) (count : Nat) :
    (runSteps limit count play).1.Pauses := by
  induction count generalizing play with
  | zero =>
    rw [runSteps]
    split
    -- Here the steps are used up, perhaps in the middle of a line.
    next => exact .inl rfl
    next hrun => exact .inr (h.stopped hrun)
  | succ count ih =>
    by_cases hrun : play.status.isRunning = true
    · obtain ⟨hkeeps, hended⟩ := step_keepsLines h
      cases hfault : play.step.2 with
      | none =>
        rw [runSteps_of_step hrun hfault]
        exact ih hkeeps
      | some fault =>
        rw [fst_runSteps_of_fault hrun hfault]
        rw [hfault] at hended
        exact .inr (hkeeps.isBetweenLines (hended (Option.some_ne_none fault)))
    · rw [runSteps_of_not_running hrun]
      exact .inr (h.stopped hrun)

/-- Running on from between lines, or not running on because of a failure. -/
theorem andRun_pauses {result : Play × Option Failure} (h : result.1.IsBetweenLines) :
    (andRun result).1.Pauses := by
  obtain ⟨play, failure⟩ := result
  cases failure with
  | none => exact runSteps_pauses h.keepsLines defaultStepLimit defaultStepLimit.toNat
  | some failure => exact .inr h

/-! ## Acts

  A caller who takes single steps can stop the play in the middle of a line, so `step` is left out.
  Every other act begins between lines and ends there, as long as no run uses up its steps. -/

/-- An act begins between lines and stops there, unless it is a single step. -/
theorem perform_pauses (h : play.IsBetweenLines) {act : Act} (hact : act ≠ .step) :
    (play.perform act).Pauses := by
  cases act with
  | start fileId block =>
    exact andRun_pauses (coversMoves_betweenLines.enterFile play fileId block h)
  | enter fileId block => exact .inr (coversMoves_betweenLines.enterFile play fileId block h)
  | choose selection => exact andRun_pauses (coversMoves_betweenLines.follow play selection h)
  | follow selection => exact .inr (coversMoves_betweenLines.follow play selection h)
  | step => exact absurd rfl hact
  | run limit => exact runSteps_pauses h.keepsLines limit limit.toNat
  | setFlag name value => exact .inr ⟨h.library, h.ended, h.cursors⟩
  | setCounter name value => exact .inr ⟨h.library, h.ended, h.cursors⟩
  -- What is left is done to the library or to the files.
  | _ => exact .inr (coversMoves_betweenLines.beside play rfl h)

/-- Acts one after the other stop between lines, as long as no steps are used up. -/
theorem performAll_isBetweenLines (h : play.IsBetweenLines) {acts : List Act}
    (hacts : ∀ act ∈ acts, act ≠ .step)
    (hlimit : ∀ earlier, earlier <+: acts →
      (play.performAll earlier).status.isStepLimit = false) :
    (play.performAll acts).IsBetweenLines := by
  induction acts generalizing play with
  | nil => exact h
  | cons act acts ih =>
    have hfirst : (play.perform act).IsBetweenLines := by
      rcases perform_pauses h (hacts act List.mem_cons_self) with hused | hbetween
      -- What holds of each beginning of the acts holds after the first of them.
      · have hstop := hlimit [act] (List.prefix_append [act] acts)
        exact absurd (hused.symm.trans hstop) Bool.true_eq_false.mp
      · exact hbetween
    refine ih hfirst (fun other hother => hacts other (List.mem_cons_of_mem _ hother))
      fun earlier hearlier => ?_
    exact hlimit (act :: earlier) ((List.prefix_cons_inj act).2 hearlier)

end Play

/-! ## The console

  A console remembers whether it begins a line, and the colour of the prompt that the line is, if it
  is one.  Both are settled by the end of a line, so what was shown before does not matter: whoever
  is handed the end of a line last is at rest.  The session hands over what the play has shown
  before it prints a menu or says good-bye, and prints those without the console. -/

namespace Console

/-- The console begins a line, which is no prompt yet. -/
structure IsAtRest (console : Console) : Prop where
  start : console.atLineStart = true
  color : console.lineColor = none

/-- The console after what was shown, given with the newest first. -/
def afterAll (console : Console) (shown : List Shown) : Console :=
  shown.reverse.foldl (fun console event => (console.display event).1) console

/-- A console that is handed ended lines is at rest again. -/
theorem IsAtRest.afterAll {console : Console} (h : console.IsAtRest) {shown : List Shown}
    (hended : lineOpen shown = false) : (console.afterAll shown).IsAtRest := by
  rcases lineOpen_eq_false_iff.1 hended with rfl | hlast
  · exact h
  · obtain ⟨earlier, rfl⟩ := List.head?_eq_some_iff.1 hlast
    rw [Console.afterAll, List.reverse_cons, List.foldl_append]
    exact ⟨rfl, rfl⟩

end Console

namespace Session

variable {session : Session}

/-- The play and the console are as they were. -/
def IsSameScreen (session other : Session) : Prop :=
  session.play = other.play ∧ session.console = other.console

/-- Settling hands the console what the play has shown, oldest first, and nothing else; the log that
    is carried out before does not touch it. -/
theorem console_settle (session : Session) (play : Play) :
    (session.settle play).console = session.console.afterAll play.shown := by
  have hfold : ∀ (events : List Shown) (session : Session), (events.foldl display session).console =
      events.foldl (fun console event => (console.display event).1) session.console := by
    intro events
    induction events with
    | nil => exact fun _ => rfl
    | cons event events ih => exact fun session => ih (session.display event)
  exact hfold play.shown.reverse (session.emitLog play.log)

/-- The play is between lines and the console at rest, unless the steps of a run were used up. -/
def Pauses (session : Session) : Prop :=
  session.play.status.isStepLimit = true ∨
    (session.play.IsBetweenLines ∧ session.console.IsAtRest)

theorem isSameScreen_finish (session : Session) : session.finish.IsSameScreen session := by
  rw [finish]
  exact ⟨rfl, rfl⟩

/-- So do the menu and the halt of a story. -/
theorem isSameScreen_proceed (session : Session) : session.proceed.IsSameScreen session := by
  rw [proceed]
  split
  next => exact ⟨rfl, rfl⟩
  next => exact isSameScreen_finish session

/-- The menu and the parting words are printed on the screen as it is. -/
theorem isSameScreen_goOn (session : Session) (failure : Option Failure) :
    (session.goOn failure).IsSameScreen session := by
  cases failure with
  | none => exact isSameScreen_proceed session
  | some failure =>
    cases failure with
    | unresolved error => exact ⟨rfl, rfl⟩
    | refused error => exact isSameScreen_proceed (session.emit _)
    | fault fault => exact ⟨rfl, rfl⟩

theorem Pauses.congr {other : Session} (h : session.Pauses) (hsame : other.IsSameScreen session) :
    other.Pauses := by
  rw [Pauses, hsame.1, hsame.2]
  exact h

/-- What a play has shown when it pauses leaves the console at rest. -/
theorem settle_pauses (hrest : session.console.IsAtRest) {play : Play} (h : play.Pauses) :
    (session.settle play).Pauses := by
  rcases h with hused | hbetween
  · exact .inl hused
  · refine .inr ⟨⟨hbetween.library, rfl, hbetween.cursors⟩, ?_⟩
    rw [console_settle]
    exact hrest.afterAll hbetween.ended

/-- A reply that leaves, one that is not understood and one that picks an option: only the last one
    moves the play, and then it runs on to where it pauses. -/
theorem takeReply_pauses (h : session.play.IsBetweenLines) (hrest : session.console.IsAtRest)
    (choices : List Choice) (reply : String) : (session.takeReply choices reply).Pauses := by
  rw [takeReply]
  split
  next => exact Pauses.congr (.inr ⟨h, hrest⟩) (isSameScreen_finish session)
  next =>
    split
    next => exact .inr ⟨h, hrest⟩
    next =>
      have hpuzzled : (session.puzzled reply).IsSameScreen session := by
        rw [puzzled]
        split <;> exact ⟨rfl, rfl⟩
      exact (Pauses.congr (.inr ⟨h, hrest⟩) hpuzzled).congr (isSameScreen_proceed _)
    next index _ =>
      have hbetween := Play.coversMoves_betweenLines.follow _ (.index index) h
      have hran := settle_pauses hrest (Play.andRun_pauses hbetween)
      exact hran.congr (isSameScreen_goOn _ _)

/-- Whatever the session is told, it pauses again. -/
theorem answer_pauses (h : session.Pauses) (reply : Option String) :
    (session.answer reply).Pauses := by
  rw [answer]
  split
  next choices _ hstatus =>
    rcases h with hused | ⟨hbetween, hrest⟩
    · rw [hstatus] at hused
      cases hused
    · cases reply with
      | none => exact Pauses.congr (.inr ⟨hbetween, hrest⟩) (isSameScreen_finish session)
      | some reply => exact takeReply_pauses hbetween hrest _ reply
  next => exact h

/-- Starting a story runs on to where the play pauses, or starts nothing. -/
theorem startStory_pauses (h : session.play.IsBetweenLines) (hrest : session.console.IsAtRest)
    (file : String) (block : Option Given) : (session.startStory file block).Pauses := by
  rw [startStory.eq_def]
  split
  next => exact .inr ⟨h, hrest⟩
  next =>
    have hbetween :=
      Play.coversMoves_betweenLines.enterFile session.play file (block.bind Given.text?) h
    have hran := settle_pauses hrest (Play.andRun_pauses hbetween)
    exact hran.congr (isSameScreen_goOn _ _)

/-- Opening a file may load it, which moves nothing in the play. -/
theorem openFile_pauses (h : session.play.IsBetweenLines) (hrest : session.console.IsAtRest)
    (file : String) (block : Option Given) : (session.openFile file block).Pauses := by
  rw [openFile]
  split
  next => exact .inr ⟨h, hrest⟩
  next outcome hload =>
    have hparsed := (h.library.finds (Library.finds_loadFile hload)).1
    have hbetween : (session.settle (session.play.absorb outcome)).play.IsBetweenLines :=
      ⟨hparsed, rfl, h.cursors⟩
    have hsettled : (session.settle (session.play.absorb outcome)).console.IsAtRest := by
      rw [console_settle]
      exact hrest.afterAll h.ended
    dsimp only
    split
    next => exact .inr ⟨hbetween, hsettled⟩
    next => exact startStory_pauses hbetween hsettled file block

/-- **A session that has begun pauses**, whatever its setup: it has refused to start, or run on to
    where the play pauses. -/
theorem begin_pauses (setup : Setup) : (begin setup).Pauses := by
  have hparsed : (libraryOf setup).IsParsed := fun fileId story hfound => by cases hfound
  have hremember : ∀ session : Session, (session.remember setup).IsSameScreen session := by
    intro session
    rw [remember]
    split
    next =>
      split
      next => exact ⟨rfl, rfl⟩
      next => split <;> exact ⟨rfl, rfl⟩
    next => exact ⟨rfl, rfl⟩
  have hopen : ∀ session : Session, session.play.IsBetweenLines → session.console.IsAtRest →
      ∀ arguments, (session.openStory arguments).Pauses := by
    intro session h hrest arguments
    rw [openStory]
    split
    next => exact .inr ⟨h, hrest⟩
    next => exact .inr ⟨h, hrest⟩
    next => exact openFile_pauses h hrest _ _
  have hfresh := Play.isBetweenLines_fresh hparsed { name := setup.arguments.name.shown }
  rw [begin]
  dsimp only
  split
  next => exact Pauses.congr (.inr ⟨hfresh, ⟨rfl, rfl⟩⟩) (hremember _)
  next =>
    apply hopen
    · rw [(hremember _).1]
      exact hfresh
    · rw [(hremember _).2]
      exact ⟨rfl, rfl⟩

/-- And so it does after any replies, one after the other. -/
theorem after_pauses (h : session.Pauses) (replies : List String) :
    (session.after replies).Pauses := by
  induction replies generalizing session with
  | nil => exact h
  | cons reply replies ih => exact ih (answer_pauses h (some reply))

end Session

/-- **Lines are ended before a play pauses.** Begin with stories that were read from texts, and do
    to the play what a caller does to it, single steps excepted. As long as no steps were used up,
    nothing was shown in the end or the end of a line was shown last, and a console that was at rest
    and was handed what was shown is at rest again. So is the console of a session, after any setup
    and any replies, when it has printed the menu or the parting words, which leave it as it is. -/
theorem linesEnded :
    (∀ library : Library, library.IsParsed → ∀ (state : State) (acts : List Act),
      (∀ act ∈ acts, act ≠ .step) →
      (∀ earlier, earlier <+: acts →
        ((Play.fresh library state).performAll earlier).status.isStepLimit = false) →
      let shown := ((Play.fresh library state).performAll acts).shown
      (shown = [] ∨ shown.head? = some .lineEnd) ∧
        ∀ console : Console, console.IsAtRest → (console.afterAll shown).IsAtRest) ∧
    ∀ (setup : Setup) (replies : List String),
      ((Session.begin setup).after replies).play.status.isStepLimit = false →
      ((Session.begin setup).after replies).console.IsAtRest := by
  constructor
  · intro library hparsed state acts hacts hlimit
    have h := Play.performAll_isBetweenLines (Play.isBetweenLines_fresh hparsed state) hacts hlimit
    exact ⟨lineOpen_eq_false_iff.1 h.ended, fun console hrest => hrest.afterAll h.ended⟩
  · intro setup replies hlimit
    rcases Session.after_pauses (Session.begin_pauses setup) replies with hused | ⟨-, hrest⟩
    · rw [hlimit] at hused
      cases hused
    · exact hrest

/-- A stair with a word in a colour, a prompt in a branch, and a way down. -/
def stairText : String :=
  "@block stair\nA \x7bred\x7dhot\x7b/red\x7d lamp\n@if flag:lit\n  Look down.\n@endif\n" ++
  "@option Down -> cellar\n@end\n@block cellar\nRats.\n@end\n"

/-- Starting on the stair with the lamp lit, and going down. -/
def stairActs : List Act :=
  [.load "stair" stairText, .setFlag "lit" true, .start "stair" none, .choose (.index 0)]

/-- On the stair there is a line with a colour in it, and a line in a branch: both are ended before
    the choice is offered, and the console is at rest when the rats have been met. -/
theorem linesEnded_stair :
    (∀ earlier, earlier <+: stairActs →
      ((Play.fresh {} {}).performAll earlier).status.isStepLimit = false) ∧
    ((Play.fresh {} {}).performAll stairActs).shown.reverse =
      [.text "A " none, .text "hot" (some "red"), .text " lamp" none, .lineEnd,
        .text "  Look down." none, .lineEnd, .text "Rats." none, .lineEnd] ∧
    ((Console.mk .instant true true none).afterAll
      ((Play.fresh {} {}).performAll stairActs).shown).IsAtRest ∧
    ((Session.begin Session.crossingSetup).after ["1"]).console.IsAtRest := by
  have hparsed : ({} : Library).IsParsed := fun fileId story hfound => by cases hfound
  have hacts : ∀ act ∈ stairActs, act ≠ .step := by simp [stairActs]
  have hlimit : ∀ earlier, earlier <+: stairActs →
      ((Play.fresh {} {}).performAll earlier).status.isStepLimit = false := by
    have hall : ∀ earlier ∈ stairActs.inits,
        ((Play.fresh {} {}).performAll earlier).status.isStepLimit = false := by decide +kernel
    exact fun earlier hearlier => hall earlier ((List.mem_inits earlier stairActs).2 hearlier)
  have hsession : ((Session.begin Session.crossingSetup).after ["1"]).play.status.isStepLimit =
      false := by decide +kernel
  refine ⟨hlimit, by decide +kernel, ?_, linesEnded.2 Session.crossingSetup ["1"] hsession⟩
  exact (linesEnded.1 {} hparsed {} stairActs hacts hlimit).2 _ ⟨rfl, rfl⟩

end Gamebook
