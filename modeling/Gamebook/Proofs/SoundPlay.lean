/-
  A play of stories that were read never goes wrong.

  A fault arises where a play comes across a part of unknown form, a comparison or an operation that
  is none, or a path with the character NUL.  Stories put together by hand can bring each of them
  about; stories that were read cannot, at any depth and in whatever order things are done:

  * `Play.IsSound`: the library is sound, and all that the play holds on to comes from lines.
  * `execute_sound`: the step lemma, one case for each kind of node.  A node that comes from lines
    has no fault, and leaves the play sound.
  * `perform_sound`: every act keeps a play sound, so every play is that a caller can get to.
  * `performAll_safe`: what this means for the caller.

  The argument runs backwards from the faults.  A look-up has none if its id can be part of a path;
  a condition, a change or a choice has none if it has a form that is known; and all of this holds
  of what was read from a line (`Node.IsRead`).  What is left to show is that a play only ever holds
  on to such nodes.  This is the invariant, and because it says nothing of the state and nothing of
  the disk, a caller may change both at any time.
-/
import Gamebook.Proofs.Acts
import Gamebook.Proofs.Inlining
import Gamebook.Proofs.ParsedLibrary

namespace Gamebook

open Markup

/-! ## Conditions and changes

  A condition or an operation that is known has a result in every state.  Both inductions are on the
  condition, and both have to look at all of it: a guard that is false is written down for the log,
  so the part that the evaluation skips may not be of an unknown form either. -/

/-- A comparison that is one of the five compares any two numbers. -/
theorem Comparison.exists_holds {comparison : Comparison}
    (h : ∀ symbol, comparison ≠ .other symbol) (a b : Int) :
    ∃ truth, comparison.holds a b = .ok truth := by
  cases comparison with
  | other symbol => exact absurd rfl (h symbol)
  | _ => exact ⟨_, rfl⟩

/-- A condition that is known has a truth value in every state. -/
theorem Condition.exists_evaluate {condition : Condition} (h : condition.IsKnown) (state : State) :
    ∃ truth, condition.evaluate state = .ok truth := by
  -- The right-hand side is known to have a value even where it is not looked at.
  induction condition with
  | flag name expected => exact ⟨_, rfl⟩
  | counter name comparison value => exact Comparison.exists_holds h _ _
  | not operand ih =>
    obtain ⟨truth, htruth⟩ := ih h
    exact ⟨!truth, by rw [evaluate, htruth]⟩
  | and left right ihleft ihright =>
    obtain ⟨first, hfirst⟩ := ihleft h.1
    obtain ⟨second, hsecond⟩ := ihright h.2
    cases first with
    | false => exact ⟨false, by rw [evaluate, hfirst]⟩
    | true => exact ⟨second, by rw [evaluate, hfirst]; exact hsecond⟩
  | or left right ihleft ihright =>
    obtain ⟨first, hfirst⟩ := ihleft h.1
    obtain ⟨second, hsecond⟩ := ihright h.2
    cases first with
    | true => exact ⟨true, by rw [evaluate, hfirst]⟩
    | false => exact ⟨second, by rw [evaluate, hfirst]; exact hsecond⟩
  | unknown form => exact absurd h id

/-- A condition that is known can be written down. -/
theorem Condition.exists_describe {condition : Condition} (h : condition.IsKnown) :
    ∃ text, condition.describe = .ok text := by
  induction condition with
  | flag name expected => exact ⟨_, rfl⟩
  | counter name comparison value => exact ⟨_, rfl⟩
  | not operand ih =>
    obtain ⟨text, htext⟩ := ih h
    exact ⟨_, bind_eq_ok_iff.2 ⟨text, htext, rfl⟩⟩
  | and left right ihleft ihright =>
    obtain ⟨first, hfirst⟩ := ihleft h.1
    obtain ⟨second, hsecond⟩ := ihright h.2
    exact ⟨_, bind_eq_ok_iff.2 ⟨first, hfirst, bind_eq_ok_iff.2 ⟨second, hsecond, rfl⟩⟩⟩
  | or left right ihleft ihright =>
    obtain ⟨first, hfirst⟩ := ihleft h.1
    obtain ⟨second, hsecond⟩ := ihright h.2
    exact ⟨_, bind_eq_ok_iff.2 ⟨first, hfirst, bind_eq_ok_iff.2 ⟨second, hsecond, rfl⟩⟩⟩
  | unknown form => exact absurd h id

/-- A change that has a meaning can be done to every state. -/
theorem StateChange.exists_apply {change : StateChange} (h : change.HasMeaning) (state : State) :
    ∃ after, change.apply state = .ok after := by
  rcases change with ⟨operation, target, amount⟩
  cases operation with
  | other name => exact absurd h.2 id
  | _ => exact ⟨_, rfl⟩

/-- A choice that comes from a line can be offered or left out in every state: its guard is known,
    so it has a truth value, and a text for the log where it is false. -/
theorem Choice.IsRead.isDecided {choice : Choice} (h : choice.IsRead) (state : State) :
    choice.IsDecided state := by
  intro guard hguard
  obtain ⟨column, arguments, hread⟩ := h
  have hknown := (isKnown_of_readOption hread).2 guard hguard
  obtain ⟨truth, htruth⟩ := Condition.exists_evaluate hknown state
  cases truth with
  | true => exact .inl htruth
  | false => exact .inr ⟨htruth, Condition.exists_describe hknown⟩

theorem Choice.IsRead.isNulFree {choice : Choice} (h : choice.IsRead) :
    choice.destination.IsNulFree := by
  obtain ⟨column, arguments, hread⟩ := h
  exact Destination.isNulFree_of_isNamed (isKnown_of_readOption hread).1

/-! ## The invariant

  The nodes are those that the cursors stand in, passed or not, and the choices those that wait for
  a reply.  Nothing is said of what was shown or written to the log, which nobody reads back. -/

namespace Play

/-- The library is sound, the nodes and choices at hand come from lines, the file of the current
    block can have a path, and only a play that has halted has no cursor. -/
structure IsSound (play : Play) : Prop where
  library : play.library.IsSound
  place : IsNulFree play.place.file
  nodes : ∀ cursor ∈ play.cursors, ∀ node ∈ cursor.nodes, node.IsRead
  choices : ∀ place choices, play.status = .awaitingChoice place choices →
    ∀ choice ∈ choices, choice.IsRead
  cursors : play.cursors = [] → ∃ halt, play.status = .halted halt

variable {play : Play}

theorem isSound_fresh {library : Library} (h : library.IsSound) (state : State) :
    (fresh library state).IsSound :=
  ⟨h, show IsNulFree "" from by decide, nofun, nofun, fun _ => ⟨_, rfl⟩⟩

/-- A halted play holds on to nothing. -/
theorem isSound_halt (hlibrary : play.library.IsSound) (hplace : IsNulFree play.place.file)
    (halt : Halt) : (play.halt halt).IsSound :=
  ⟨hlibrary, hplace, nofun, nofun, fun _ => ⟨halt, rfl⟩⟩

/-- A play that has just entered a block holds on to its nodes alone. -/
theorem isSound_enter (hlibrary : play.library.IsSound) {scene : Scene} (hscene : scene.IsRead) :
    (play.enter scene).IsSound := by
  refine ⟨hlibrary, hscene.1, fun cursor hcursor => ?_, nofun, nofun⟩
  rw [List.mem_singleton.1 hcursor]
  exact hscene.2

/-- Whatever the library did, the play goes on with it. -/
theorem IsSound.absorb (h : play.IsSound) {ε α : Type} {good : α → Prop} {outcome : Outcome ε α}
    (houtcome : outcome.Keeps good) : (play.absorb outcome).IsSound :=
  ⟨houtcome.library, h.place, h.nodes, h.choices, h.cursors⟩

/-- A look-up that has a fault leaves the play as it was. -/
theorem IsSound.absorbResult (h : play.IsSound) {ε α : Type} {good : α → Prop}
    {result : Except Fault (Outcome ε α)}
    (hkeeps : ∀ outcome, result = .ok outcome → outcome.Keeps good) :
    (play.absorbResult result).IsSound := by
  cases result with
  | error fault => exact h
  | ok outcome => exact h.absorb (hkeeps outcome rfl)

/-- Nothing but the library, the place, the cursors and the status is looked at. -/
theorem IsSound.withState (h : play.IsSound) (state : State) : { play with state }.IsSound :=
  ⟨h.library, h.place, h.nodes, h.choices, h.cursors⟩

/-- A node taken from the stack comes from a line when all of them do, and it leaves a cursor
    behind, whose nodes are as they were. -/
theorem isRead_of_takeNode {cursors rest : List Cursor} {node : Node}
    (hnodes : ∀ cursor ∈ cursors, ∀ node ∈ cursor.nodes, node.IsRead)
    (h : Cursor.takeNode cursors = some (node, rest)) :
    node.IsRead ∧ rest ≠ [] ∧ ∀ cursor ∈ rest, ∀ node ∈ cursor.nodes, node.IsRead := by
  induction cursors with
  | nil => cases h
  | cons cursor outer ih =>
    obtain ⟨hfirst, houter⟩ := List.forall_mem_cons.1 hnodes
    rw [Cursor.takeNode] at h
    cases hnext : cursor.next? with
    | none =>
      rw [hnext] at h
      exact ih houter h
    | some next =>
      rw [hnext] at h
      cases h
      have hnode : node.IsRead := hfirst node (List.mem_of_getElem? hnext)
      exact ⟨hnode, List.cons_ne_nil _ _, List.forall_mem_cons.2 ⟨hfirst, houter⟩⟩

/-! ## What one operation does

  Each lemma says two things of an operation: it has no fault, and it leaves the play sound.  Going
  to a destination asks for less than a sound play.  A choice is gone for while the status is set to
  running for the length of the transfer, and the invariant need not hold of that. -/

/-- Going to a destination has no fault: it ends in a block, or halts the play with the error. -/
theorem transfer_sound (hlibrary : play.library.IsSound) (hplace : IsNulFree play.place.file)
    {destination : Destination} (hdestination : destination.IsNulFree) :
    (play.transfer destination).2 = none ∧ (play.transfer destination).1.IsSound := by
  obtain ⟨outcome, hresolve, hkeeps⟩ := Library.exists_resolve hlibrary hdestination hplace
  cases hresult : outcome.result with
  | ok scene =>
    rw [transfer_of_scene hresolve hresult]
    exact ⟨rfl, isSound_enter hkeeps.library (hkeeps.good scene hresult)⟩
  | error error =>
    rw [transfer_of_error hresolve hresult]
    refine ⟨rfl, ?_⟩
    apply isSound_halt
    · exact hkeeps.library
    · exact hplace

/-- Offering a menu of choices that come from lines has no fault. -/
theorem offer_sound (h : play.IsSound) (hcursors : play.cursors ≠ []) {choices : List Choice}
    (hchoices : ∀ choice ∈ choices, choice.IsRead) :
    (play.offer choices).2 = none ∧ (play.offer choices).1.IsSound := by
  have hoffered : (offered play.state choices).1 =
      .ok (choices.filter (Choice.isVisible play.state)) :=
    offered_ok_iff.2 ⟨fun choice hmem => (hchoices choice hmem).isDecided play.state, rfl⟩
  rw [offer]
  simp only [hoffered]
  split
  next heq => cases heq
  next heq => exact ⟨rfl, h.library, h.place, h.nodes, h.choices, h.cursors⟩
  next visible _ heq =>
    cases heq
    refine ⟨rfl, h.library, h.place, h.nodes, fun place choices hstatus => ?_,
      fun hnil => absurd hnil hcursors⟩
    cases hstatus
    exact fun choice hmem => hchoices choice (List.mem_of_mem_filter hmem)

/-- **The step lemma**: a node that comes from lines has no fault, and leaves the play sound. -/
theorem execute_sound (h : play.IsSound) (hcursors : play.cursors ≠ []) {node : Node}
    (hnode : node.IsRead) : (play.execute node).2 = none ∧ (play.execute node).1.IsSound := by
  cases hnode with
  | text run => exact ⟨rfl, h.library, h.place, h.nodes, h.choices, h.cursors⟩
  -- Only a change to the game-over flag can halt the play.
  | change hread =>
    obtain ⟨state, hstate⟩ :=
      StateChange.exists_apply (hasMeaning_of_readChange hread) play.state
    rw [execute_change hstate]
    refine ⟨rfl, ?_⟩
    split
    next => apply isSound_halt; exacts [h.library, h.place]
    next => exact h.withState state
  | @conditional _ _ condition thenNodes elseNodes hread hthen helse =>
    obtain ⟨truth, htruth⟩ :=
      Condition.exists_evaluate (isKnown_of_readCondition hread) play.state
    -- The branch that is taken consists of nodes that come from lines, whichever it is.
    have hbranch : ∀ node ∈ if truth then thenNodes else elseNodes, node.IsRead := by
      cases truth with
      | true => exact hthen
      | false => exact helse
    rw [execute, htruth]
    dsimp only
    cases hnodes : (if truth then thenNodes else elseNodes) with
    | nil => exact ⟨rfl, h⟩
    | cons first rest =>
      rw [hnodes] at hbranch
      exact ⟨rfl, h.library, h.place, List.forall_mem_cons.2 ⟨hbranch, h.nodes⟩, h.choices,
        fun hnil => by cases hnil⟩
  | menu _ hread => exact offer_sound h hcursors hread
  | jump hread =>
    exact transfer_sound h.library h.place
      (Destination.isNulFree_of_isNamed (isNamed_of_readDestination hread))

/-- The status is brought up to date only while the play is running, and then it has a cursor:
    without one it would have halted. -/
theorem refresh_sound (h : play.IsSound) : play.refresh.IsSound := by
  rw [refresh]
  split
  next hrun =>
    refine ⟨h.library, h.place, h.nodes, nofun, fun hnil => ?_⟩
    obtain ⟨halt, hhalt⟩ := h.cursors hnil
    rw [hhalt] at hrun
    cases hrun
  next => exact h

/-- A step has no fault and leaves the play sound: it ends a block that is exhausted, or does what
    the next node says. -/
theorem step_sound (h : play.IsSound) : play.step.2 = none ∧ play.step.1.IsSound := by
  by_cases hrun : play.status.isRunning = true
  · cases htake : Cursor.takeNode play.cursors with
    | none =>
      rw [step_of_exhausted hrun htake]
      exact ⟨rfl, isSound_halt h.library h.place _⟩
    | some taken =>
      obtain ⟨node, cursors⟩ := taken
      obtain ⟨hnode, hsome, hnodes⟩ := isRead_of_takeNode h.nodes htake
      -- The cursor that gave the node stays on the stack, so the stack is not empty while the node
      -- is executed.
      have htaken : Play.IsSound { play with cursors } :=
        ⟨h.library, h.place, hnodes, h.choices, fun hnil => absurd hnil hsome⟩
      obtain ⟨hnone, hsound⟩ := execute_sound htaken hsome hnode
      rw [step, if_pos hrun, htake]
      cases hexecute : Play.execute { play with cursors } node with
      | mk next fault =>
        rw [hexecute] at hnone hsound
        cases hnone
        simp only [hexecute]
        exact ⟨trivial, refresh_sound hsound⟩
  · rw [step, if_neg hrun]
    exact ⟨rfl, h⟩

/-! ## Runs

  Runs follow from steps by induction on the steps that are left.  Starting and choosing can fail,
  each in its own way, and what comes after them adds no failure to that. -/

/-- A run has no fault, for none of its steps has one. -/
theorem runSteps_sound (h : play.IsSound) (limit : Int) (count : Nat) :
    (runSteps limit count play).2 = none ∧ (runSteps limit count play).1.IsSound := by
  induction count generalizing play with
  | zero =>
    rw [runSteps]
    split
    next =>
      refine ⟨rfl, ?_⟩
      apply isSound_halt
      · exact h.library
      · exact h.place
    next => exact ⟨rfl, h⟩
  | succ count ih =>
    by_cases hrun : play.status.isRunning = true
    · obtain ⟨hnone, hsound⟩ := step_sound h
      rw [runSteps_of_step hrun hnone]
      exact ih hsound
    · rw [runSteps, if_neg hrun]
      exact ⟨rfl, h⟩

theorem run_sound (h : play.IsSound) (limit : Int) :
    (play.run limit).2 = none ∧ (play.run limit).1.IsSound := runSteps_sound h limit limit.toNat

/-- Running on adds no failure to what has come before. -/
theorem andRun_sound {result : Play × Option Failure} (h : result.1.IsSound) :
    (andRun result).2 = result.2 ∧ (andRun result).1.IsSound := by
  obtain ⟨play, failure⟩ := result
  cases failure with
  | none =>
    obtain ⟨hnone, hsound⟩ := run_sound h defaultStepLimit
    refine ⟨?_, hsound⟩
    rw [andRun]
    exact congrArg (Option.map Failure.fault) hnone
  | some failure => exact ⟨rfl, h⟩

/-- Starting with a file fails only with the reason why no block was found, and leaves the play
    sound in either case. -/
theorem enterFile_sound (h : play.IsSound) {fileId : String} (hid : IsNulFree fileId)
    (block : Option String) :
    (∀ failure, (play.enterFile fileId block).2 = some failure →
      ∃ error, failure = .unresolved error) ∧ (play.enterFile fileId block).1.IsSound := by
  obtain ⟨outcome, hresolve, hkeeps⟩ :=
    @Library.exists_resolve play.library h.library (.file fileId block) fileId hid hid
  rw [enterFile, hresolve]
  cases hresult : outcome.result with
  | ok scene =>
    simp only [hresult]
    exact ⟨nofun, isSound_enter hkeeps.library (hkeeps.good scene hresult)⟩
  | error error =>
    simp only [hresult]
    exact ⟨fun failure hfailure => ⟨error, (Option.some.inj hfailure).symm⟩, h.absorb hkeeps⟩

/-- A selection that is accepted picks one of the choices of the menu. -/
theorem isRead_of_selected {choices : List Choice} (hchoices : ∀ choice ∈ choices, choice.IsRead)
    {selection : Selection} {choice : Choice} (h : selected choices selection = .ok choice) :
    choice.IsRead := by
  cases selection with
  | index index =>
    rw [selected] at h
    split at h
    next => cases h
    next =>
      split at h
      next found hfound => cases h; exact hchoices choice (List.mem_of_getElem? hfound)
      next => cases h
  | _ => cases h

/-- A choice that is accepted is gone for like a jump, from the same file. -/
theorem follow_of_selected {place : Place} {choices : List Choice} {selection : Selection}
    {choice : Choice} (hstatus : play.status = .awaitingChoice place choices)
    (hselected : selected choices selection = .ok choice) :
    ∃ going : Play, going.library = play.library ∧ going.place = play.place ∧
      play.follow selection =
        ((going.transfer choice.destination).1,
          (going.transfer choice.destination).2.map .fault) := by
  rw [follow]
  simp only [hstatus, hselected]
  refine ⟨_, ?_, ?_, rfl⟩
  · rfl
  · rfl

/-- A choice fails only where it is refused, and that changes nothing. -/
theorem follow_sound (h : play.IsSound) (selection : Selection) :
    (∀ failure, (play.follow selection).2 = some failure → ∃ error, failure = .refused error) ∧
      (play.follow selection).1.IsSound := by
  cases hstatus : play.status with
  | awaitingChoice place choices =>
    cases hselected : selected choices selection with
    | error error =>
      rw [follow]
      simp only [hstatus, hselected]
      exact ⟨fun failure hfailure => ⟨error, (Option.some.inj hfailure).symm⟩, h⟩
    | ok choice =>
      -- While the choice is gone for the play counts as running, whatever its cursors are; going to
      -- a destination asks for the library and the place only.
      have hread := isRead_of_selected (h.choices place choices hstatus) hselected
      obtain ⟨going, hlibrary, hplace, hfollow⟩ := follow_of_selected hstatus hselected
      obtain ⟨hnone, hsound⟩ :=
        @transfer_sound going (hlibrary ▸ h.library) (hplace ▸ h.place) _ hread.isNulFree
      rw [hfollow, hnone]
      exact ⟨nofun, hsound⟩
  | _ =>
    rw [follow]
    simp only [hstatus]
    exact ⟨fun failure hfailure => ⟨_, (Option.some.inj hfailure).symm⟩, h⟩

end Play

/-! ## Acts

  An id that a caller hands over need not come from a line, so it is asked of the act that it can
  have a path.  No other act can bring in anything that a text does not. -/

/-- The file that the act starts with, if it starts at all, can have a path. -/
def Act.IsNulFree : Act → Prop
  | start fileId _ | enter fileId _ => Gamebook.IsNulFree fileId
  | _ => True

namespace Play

variable {play : Play}

/-- Every act keeps a play sound, whether it succeeds or not. -/
theorem perform_sound (h : play.IsSound) {act : Act} (hact : act.IsNulFree) :
    (play.perform act).IsSound := by
  cases act with
  | start fileId block => exact (andRun_sound (enterFile_sound h hact block).2).2
  | enter fileId block => exact (enterFile_sound h hact block).2
  | choose selection => exact (andRun_sound (follow_sound h selection).2).2
  | follow selection => exact (follow_sound h selection).2
  | step => exact (step_sound h).2
  | run limit => exact (run_sound h limit).2
  | load fileId text => exact h.absorb (Library.keeps_load h.library fileId text)
  | loadFile fileId => exact h.absorbResult fun _ => Library.keeps_loadFile h.library
  | get fileId => exact h.absorbResult fun _ => Library.keeps_get h.library
  | writeFile location content =>
    exact ⟨h.library.writeFile location content, h.place, h.nodes, h.choices, h.cursors⟩
  | setFlag name value => exact h.withState _
  | setCounter name value => exact h.withState _

/-- What a caller can rely on. Steps and runs have no fault; starting fails only where the block to
    start with is not found, and choosing only where the choice is refused. A play that is running
    has a cursor to take the next node from. Looking up where a jump or a choice leads has no fault
    either, and where it ends in an error the play halts with that error. -/
structure IsSafe (play : Play) : Prop where
  step : play.step.2 = none
  run : ∀ limit, (play.run limit).2 = none
  start : ∀ fileId block failure, IsNulFree fileId →
    (play.start fileId block).2 = some failure → ∃ error, failure = .unresolved error
  choose : ∀ selection failure,
    (play.choose selection).2 = some failure → ∃ error, failure = .refused error
  cursors : play.status.isRunning = true → play.cursors ≠ []
  jump : ∀ destination rest, play.status.isRunning = true →
    Cursor.takeNode play.cursors = some (.jump destination, rest) →
    ∃ outcome, play.library.resolve destination play.place.file = .ok outcome ∧
      ∀ error, outcome.result = .error error →
        play.step.1.status = .halted (.unresolved destination error)
  choice : ∀ place choices selection choice, play.status = .awaitingChoice place choices →
    selected choices selection = .ok choice →
    ∃ outcome, play.library.resolve choice.destination play.place.file = .ok outcome ∧
      ∀ error, outcome.result = .error error →
        (play.choose selection).1.status = .halted (.unresolved choice.destination error)

/-- A jump that leads nowhere halts the play with the error. -/
theorem status_of_lost_jump {destination : Destination} {rest : List Cursor}
    {outcome : Outcome ResolutionError Scene} {error : ResolutionError}
    (hrun : play.status.isRunning = true)
    (htake : Cursor.takeNode play.cursors = some (.jump destination, rest))
    (hresolve : play.library.resolve destination play.place.file = .ok outcome)
    (herror : outcome.result = .error error) :
    play.step.1.status = .halted (.unresolved destination error) := by
  have htransfer : Play.execute { play with cursors := rest } (.jump destination) = _ :=
    @transfer_of_error { play with cursors := rest } destination outcome error hresolve herror
  rw [step, if_pos hrun, htake]
  simp only [htransfer]
  rfl

/-- A choice that leads nowhere halts the play with the error. -/
theorem status_of_lost_choice {place : Place} {choices : List Choice} {selection : Selection}
    {choice : Choice} {outcome : Outcome ResolutionError Scene} {error : ResolutionError}
    (hstatus : play.status = .awaitingChoice place choices)
    (hselected : selected choices selection = .ok choice)
    (hresolve : play.library.resolve choice.destination play.place.file = .ok outcome)
    (herror : outcome.result = .error error) :
    (play.choose selection).1.status = .halted (.unresolved choice.destination error) := by
  obtain ⟨going, hlibrary, hplace, hfollow⟩ := follow_of_selected hstatus hselected
  rw [← hlibrary, ← hplace] at hresolve
  rw [choose, hfollow, transfer_of_error hresolve herror]
  rfl

/-- A sound play is safe. -/
theorem isSafe_of_isSound (h : play.IsSound) : play.IsSafe where
  step := (step_sound h).1
  run limit := (run_sound h limit).1
  start fileId block failure hid hfailure := by
    obtain ⟨hfails, hsound⟩ := enterFile_sound h hid block
    exact hfails failure ((andRun_sound hsound).1 ▸ hfailure)
  choose selection failure hfailure := by
    obtain ⟨hfails, hsound⟩ := follow_sound h selection
    exact hfails failure ((andRun_sound hsound).1 ▸ hfailure)
  cursors hrun hnil := by
    obtain ⟨halt, hhalt⟩ := h.cursors hnil
    rw [hhalt] at hrun
    cases hrun
  -- The jump comes from a line, so its destination was read from one and can be looked up.
  jump destination rest hrun htake := by
    have hnode := (isRead_of_takeNode h.nodes htake).1
    cases hnode with
    | jump hread =>
      have hnamed := Destination.isNulFree_of_isNamed (isNamed_of_readDestination hread)
      obtain ⟨outcome, hresolve, -⟩ := Library.exists_resolve h.library hnamed h.place
      exact ⟨outcome, hresolve, fun _ => status_of_lost_jump hrun htake hresolve⟩
  choice place choices selection choice hstatus hselected := by
    have hread := isRead_of_selected (h.choices place choices hstatus) hselected
    obtain ⟨outcome, hresolve, -⟩ := Library.exists_resolve h.library hread.isNulFree h.place
    exact ⟨outcome, hresolve, fun _ => status_of_lost_choice hstatus hselected hresolve⟩

/-- **Stories that were read never make a play go wrong.** Begin with a library of such stories and
    with any state, do anything in any order, write whatever to the files in between: the play one
    gets to is safe. -/
theorem performAll_safe {library : Library} (hparsed : library.IsParsed)
    (hfolder : library.HasFolder) (state : State) {acts : List Act}
    (hacts : ∀ act ∈ acts, act.IsNulFree) : ((fresh library state).performAll acts).IsSafe := by
  have hfresh : (fresh library state).IsSound := isSound_fresh ⟨hparsed, hfolder⟩ state
  have hsound : ((fresh library state).performAll acts).IsSound :=
    performAll_induction (motive := IsSound) (fun _ _ hact h => perform_sound h hact) hfresh hacts
  exact isSafe_of_isSound hsound

/-- A folder with one file, whose only option leads to a file that is not there. -/
def caveLibrary : Library where
  base := .ofString "stories"
  onDemand := true
  disk :=
    { contents := [(["stories", "cave"], .text "@block mouth\n@option Go in -> deep:\n@end\n")] }

/-- Starting in the cave and going in. -/
def caveActs : List Act := [.setFlag "lit" true, .start "cave" none, .choose (.index 0)]

/-- In the cave the reader goes where no file is: no fault arises, and the play halts with the
    reason, which is that the file is missing. -/
theorem performAll_safe_cave :
    ((fresh caveLibrary {}).performAll caveActs).IsSafe ∧
      ((fresh caveLibrary {}).performAll caveActs).status =
        .halted (.unresolved (.file "deep" none)
          (.loadFailed "deep" (.read ⟨.missing, .ofString "stories/deep"⟩))) := by
  have hparsed : caveLibrary.IsParsed := fun fileId story h => by cases h
  have hacts : ∀ act ∈ caveActs, act.IsNulFree := by
    intro act hmem
    rcases List.mem_cons.1 hmem with rfl | hmem
    · trivial
    · rcases List.mem_cons.1 hmem with rfl | hmem
      · show IsNulFree "cave"
        decide
      · rw [List.mem_singleton.1 hmem]
        trivial
  have hfolder : caveLibrary.HasFolder := fun _ => by decide
  exact ⟨performAll_safe hparsed hfolder {} hacts, by decide +kernel⟩

end Play
end Gamebook
