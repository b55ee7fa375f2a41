/-
  A play walks its nodes as if every branch that is taken stood in the place of its conditional.

  A play keeps a stack of cursors.  Here the stack is laid out as one list, the nodes that the
  innermost cursor has not passed first (`Play.scroll`), and the meaning of the nodes is told over
  again for such a list alone: `Scroll.Obeys` says what one node does to a list from which it has
  been taken, `Scroll.Turns` takes the first node of the list and obeys it.  In that account a
  conditional puts its branch in front of what is left, a jump puts the nodes of a block in the
  place of what is left, and there are no cursors at all.

  * `Play.turns_scroll_iff`: the lists that the first node can lead to are exactly the list that a
    step without a fault leaves behind.  So a step is one turn, there is never more than one turn,
    and a step that has a fault is one for which the rules say nothing.
  * `Play.runSteps_turns`: a whole run is as many turns as it takes, and may end at its limit.
-/
import Gamebook.Play

namespace Gamebook

/-! ## Scrolls

  Laying a play out forgets how far each cursor has come and which cursor a node belongs to.  It
  keeps all that decides what happens next: the nodes to come, the state, the place and the library.
-/

/-- Where a play stands, leaving aside how far in its block it has come. -/
inductive Standing where
  | going
  | waiting (place : Place) (choices : List Choice)
  | halted (halt : Halt)
deriving DecidableEq

/-- The standing that a status tells. -/
def Status.standing : Status → Standing
  | running _ _ => .going
  | awaitingChoice place choices => .waiting place choices
  | halted halt => .halted halt

/-- A play whose nodes still to be passed stand in one list. -/
structure Scroll where
  library : Library
  state : State
  place : Place
  ahead : List Node
  shown : List Shown
  standing : Standing

/-- The nodes that no cursor has passed, those of the innermost cursor first. -/
def Cursor.allAhead (cursors : List Cursor) : List Node := cursors.flatMap Cursor.ahead

/-- The play with its cursors laid out. -/
def Play.scroll (play : Play) : Scroll where
  library := play.library
  state := play.state
  place := play.place
  ahead := Cursor.allAhead play.cursors
  shown := play.shown
  standing := play.status.standing

/-! ## What nodes mean on a scroll

  The rules are read without knowing how a play is run.  There is one for each way in which a node
  can be obeyed, and none where it cannot: not for a node of unknown form, nor for a condition
  without a truth value. -/

/-- What showing a run adds to what was shown, the newest first. -/
def TextRun.events (run : TextRun) : List Shown :=
  if run.endsLine then [.lineEnd, .text run.content run.color]
  else [.text run.content run.color]

/-- The guard of a choice is absent or true. -/
def Choice.isVisible (state : State) (choice : Choice) : Bool :=
  match choice.guard with
  | none => true
  | some guard =>
    match guard.evaluate state with
    | .ok truth => truth
    | .error _ => false

/-- The guard of a choice has a truth value, and can be written down when it is false. -/
def Choice.IsDecided (state : State) (choice : Choice) : Prop :=
  ∀ guard, choice.guard = some guard →
    guard.evaluate state = .ok true ∨
      guard.evaluate state = .ok false ∧ ∃ text, guard.describe = .ok text

/-- The visible choices of a menu in their order, every guard of the menu being decided. -/
def Offers (state : State) (choices visible : List Choice) : Prop :=
  (∀ choice ∈ choices, choice.IsDecided state) ∧
    visible = choices.filter (Choice.isVisible state)

namespace Scroll

/-- What a node does to a scroll from which it has been taken. -/
inductive Obeys : Node → Scroll → Scroll → Prop
  | text {scroll : Scroll} {run : TextRun} :
      Obeys (.text run) scroll { scroll with shown := run.events ++ scroll.shown }
  | change {scroll : Scroll} {change : StateChange} {state : State}
      (happly : change.apply scroll.state = .ok state) (hgo : state.isGameOver = false) :
      Obeys (.change change) scroll { scroll with state }
  | gameOver {scroll : Scroll} {change : StateChange} {state : State}
      (happly : change.apply scroll.state = .ok state) (hover : state.isGameOver = true) :
      Obeys (.change change) scroll
        { scroll with state, ahead := [], standing := .halted .gameOver }
  -- The branch is put in front of what follows the conditional; no trace of it is left behind.
  | conditional {scroll : Scroll} {condition : Condition} {thenNodes elseNodes : List Node}
      {truth : Bool} (heval : condition.evaluate scroll.state = .ok truth) :
      Obeys (.conditional condition thenNodes elseNodes) scroll
        { scroll with ahead := (if truth then thenNodes else elseNodes) ++ scroll.ahead }
  | menu {scroll : Scroll} {choices visible : List Choice}
      (hoffers : Offers scroll.state choices visible) (hsome : visible ≠ []) :
      Obeys (.menu choices) scroll { scroll with standing := .waiting scroll.place visible }
  | emptyMenu {scroll : Scroll} {choices : List Choice}
      (hoffers : Offers scroll.state choices []) : Obeys (.menu choices) scroll scroll
  -- What was ahead in the old block is dropped, and the block is entered from its first node.
  | jump {scroll : Scroll} {destination : Destination} {outcome : Outcome ResolutionError Scene}
      {scene : Scene}
      (hresolve : scroll.library.resolve destination scroll.place.file = .ok outcome)
      (hscene : outcome.result = .ok scene) :
      Obeys (.jump destination) scroll
        { scroll with
          library := outcome.library
          state := scroll.state.setProgress scene.place
          place := scene.place
          ahead := scene.block.nodes
          standing := .going }
  | lost {scroll : Scroll} {destination : Destination} {outcome : Outcome ResolutionError Scene}
      {error : ResolutionError}
      (hresolve : scroll.library.resolve destination scroll.place.file = .ok outcome)
      (herror : outcome.result = .error error) :
      Obeys (.jump destination) scroll
        { scroll with
          library := outcome.library
          ahead := []
          standing := .halted (.unresolved destination error) }

/-- One turn of a scroll that is going: its first node is taken and obeyed, or there is none. -/
inductive Turns : Scroll → Scroll → Prop
  | exhausted {scroll : Scroll} (hgoing : scroll.standing = .going) (hend : scroll.ahead = []) :
      Turns scroll
        { scroll with ahead := [], standing := .halted (.blockExhausted scroll.place) }
  | node {scroll next : Scroll} {node : Node} {rest : List Node}
      (hgoing : scroll.standing = .going) (hfirst : scroll.ahead = node :: rest)
      (hobeys : Obeys node { scroll with ahead := rest } next) : Turns scroll next

end Scroll

/-! ## How the parts of a step look on a scroll

  Here the stack of cursors is compared with the list it stands for.  A cursor that has nothing left
  contributes nothing to the list, which is why the play may drop it unseen; pushing a cursor for a
  branch puts the nodes of the branch in front; entering a block replaces the whole list. -/

namespace Cursor

@[simp] theorem allAhead_nil : allAhead [] = [] := rfl

@[simp] theorem allAhead_cons (cursor : Cursor) (outer : List Cursor) :
    allAhead (cursor :: outer) = cursor.ahead ++ allAhead outer := rfl

/-- A cursor with a next node has that node ahead, and after it what it has ahead once advanced. -/
theorem ahead_of_next {cursor : Cursor} {node : Node} (h : cursor.next? = some node) :
    cursor.ahead = node :: cursor.advance.ahead := by
  obtain ⟨hlt, hnode⟩ := List.getElem?_eq_some_iff.1 h
  have hdrop := List.drop_eq_getElem_cons hlt
  rw [hnode] at hdrop
  exact hdrop

theorem ahead_of_next_none {cursor : Cursor} (h : cursor.next? = none) : cursor.ahead = [] :=
  List.drop_eq_nil_iff.2 (List.getElem?_eq_none_iff.1 h)

/-- If no node can be taken from the stack, all of its cursors are exhausted. -/
theorem allAhead_of_takeNode_none {cursors : List Cursor} (h : takeNode cursors = none) :
    allAhead cursors = [] := by
  induction cursors with
  | nil => rfl
  | cons cursor outer ih =>
    rw [takeNode] at h
    cases hnext : cursor.next? with
    | none =>
      rw [hnext] at h
      rw [allAhead_cons, ahead_of_next_none hnext, ih h, List.append_nil]
    | some node => rw [hnext] at h; cases h

/-- Taking a node from the stack takes the first of all that is ahead. -/
theorem allAhead_of_takeNode {cursors rest : List Cursor} {node : Node}
    (h : takeNode cursors = some (node, rest)) : allAhead cursors = node :: allAhead rest := by
  induction cursors with
  | nil => cases h
  | cons cursor outer ih =>
    rw [takeNode] at h
    cases hnext : cursor.next? with
    | none =>
      rw [hnext] at h
      rw [allAhead_cons, ahead_of_next_none hnext, List.nil_append, ih h]
    | some next =>
      rw [hnext] at h
      cases h
      rw [allAhead_cons, ahead_of_next hnext, List.cons_append, allAhead_cons]

end Cursor

namespace Play

/-- Entering a block leaves its nodes and nothing else ahead. -/
@[simp] theorem scroll_enter (play : Play) (scene : Scene) :
    (play.enter scene).scroll =
      { play.scroll with
        state := play.state.setProgress scene.place
        place := scene.place
        ahead := scene.block.nodes
        standing := .going } := by
  simp [scroll, enter, note, Status.standing, Cursor.ahead]

theorem scroll_display (play : Play) (run : TextRun) :
    (play.display run).scroll = { play.scroll with shown := run.events ++ play.shown } := by
  unfold display TextRun.events
  split <;> rfl

/-- The index that a refreshed status tells is not to be seen on the scroll. -/
@[simp] theorem scroll_refresh (play : Play) : play.refresh.scroll = play.scroll := by
  unfold refresh
  split
  next hrun =>
    cases hstatus : play.status with
    | running place index => simp [scroll, hstatus, Status.standing]
    | awaitingChoice place choices => simp [hstatus, Status.isRunning] at hrun
    | halted halt => simp [hstatus, Status.isRunning] at hrun
  next => rfl

theorem isRunning_iff_going (play : Play) :
    play.status.isRunning = true ↔ play.scroll.standing = .going := by
  cases hstatus : play.status <;> simp [scroll, hstatus, Status.standing, Status.isRunning]

/-! ## Each node by itself

  For every kind of node the rule and the program are shown to agree, in both directions.  From the
  rule to the program, the premises of the rule tell which branch of the program is taken.  From the
  program to the rule, each branch either has a fault, which is excluded, or supplies the premises.

  Menus are the longest case, since a menu founders on one guard without a truth value even if all
  the others have one.  `offered_cons` tells what the first choice does to the whole menu. -/

/-- The first choice of a menu is offered before the others, or left out, or has a guard on which
    the whole menu founders. -/
theorem offered_cons (state : State) (choice : Choice) (rest : List Choice) :
    (choice.IsDecided state ∧ choice.isVisible state = true ∧
      (offered state (choice :: rest)).1 = (offered state rest).1.map (choice :: ·)) ∨
    (choice.IsDecided state ∧ choice.isVisible state = false ∧
      (offered state (choice :: rest)).1 = (offered state rest).1) ∨
    (¬ choice.IsDecided state ∧ ∃ fault, (offered state (choice :: rest)).1 = .error fault) := by
  rw [offered]
  cases hguard : choice.guard with
  | none =>
    have hdecided : choice.IsDecided state := fun guard h => by rw [hguard] at h; cases h
    exact .inl ⟨hdecided, by rw [Choice.isVisible, hguard], rfl⟩
  | some guard =>
    have hiff : choice.IsDecided state ↔ guard.evaluate state = .ok true ∨
        guard.evaluate state = .ok false ∧ ∃ text, guard.describe = .ok text := by
      refine ⟨fun h => h guard hguard, fun h other hother => ?_⟩
      rw [hguard] at hother
      cases hother
      exact h
    rw [hiff, Choice.isVisible, hguard]
    cases htruth : guard.evaluate state with
    | error fault => exact .inr (.inr ⟨by simp, fault, by simp [htruth]⟩)
    | ok truth =>
      cases truth with
      | true => exact .inl ⟨.inl rfl, by simp [htruth], by simp [htruth]⟩
      | false =>
        cases htext : guard.describe with
        | error fault => exact .inr (.inr ⟨by simp, fault, by simp [htruth, htext]⟩)
        | ok text =>
          exact .inr (.inl ⟨.inr ⟨rfl, text, rfl⟩, by simp [htruth], by simp [htruth, htext]⟩)

/-- What is offered is what is visible, in the order of the menu. -/
theorem offered_ok_iff {state : State} {choices visible : List Choice} :
    (offered state choices).1 = .ok visible ↔ Offers state choices visible := by
  induction choices generalizing visible with
  | nil =>
    constructor
    · intro h
      exact ⟨fun _ hmem => absurd hmem List.not_mem_nil, (Except.ok.inj h).symm⟩
    · rintro ⟨-, rfl⟩
      rfl
  | cons choice rest ih =>
    unfold Offers at ih ⊢
    rw [List.forall_mem_cons]
    rcases offered_cons state choice rest with
      ⟨hdecided, hvisible, heq⟩ | ⟨hdecided, hhidden, heq⟩ | ⟨hundecided, fault, heq⟩
    -- The first choice is visible: the others are offered behind it, or the menu founders on them.
    · rw [heq, List.filter_cons_of_pos hvisible]
      cases hrest : (offered state rest).1 with
      | error fault =>
        refine ⟨nofun, fun h => ?_⟩
        have hok := ih.2 ⟨h.1.2, rfl⟩
        rw [hrest] at hok
        cases hok
      | ok others =>
        obtain ⟨hall, hothers⟩ := ih.1 hrest
        rw [hothers]
        exact ⟨fun h => ⟨⟨hdecided, hall⟩, (Except.ok.inj h).symm⟩, fun h => by rw [h.2]; rfl⟩
    -- It is hidden, so the menu is that of the others.
    · rw [heq, ih, List.filter_cons_of_neg (by simp [hhidden])]
      exact ⟨fun h => ⟨⟨hdecided, h.1⟩, h.2⟩, fun h => ⟨h.1.2, h.2⟩⟩
    · rw [heq]
      exact ⟨nofun, fun h => absurd h.1.1 hundecided⟩

/-- Offering a menu is what the rules for menus say. -/
theorem offer_iff (play : Play) (choices : List Choice) (scroll : Scroll) :
    Scroll.Obeys (.menu choices) play.scroll scroll ↔
      (play.offer choices).2 = none ∧ (play.offer choices).1.scroll = scroll := by
  unfold offer
  cases hresult : (offered play.state choices).1 with
  | error fault =>
    simp only [hresult]
    have hnot : ∀ visible, ¬ Offers play.state choices visible := by
      intro visible hoffers
      have hok := offered_ok_iff.2 hoffers
      rw [hresult] at hok
      cases hok
    constructor
    · intro h
      cases h with
      | menu hoffers _ => exact absurd hoffers (hnot _)
      | emptyMenu hoffers => exact absurd hoffers (hnot _)
    · rintro ⟨h, -⟩
      cases h
  | ok visible =>
    have hoffers := offered_ok_iff.1 hresult
    have hunique : ∀ {others}, Offers play.scroll.state choices others → others = visible :=
      fun h => h.2.trans hoffers.2.symm
    simp only [hresult]
    cases visible with
    | nil =>
      constructor
      · intro h
        cases h with
        | menu hothers hsome => exact absurd (hunique hothers) hsome
        | emptyMenu _ => exact ⟨rfl, rfl⟩
      · rintro ⟨-, rfl⟩
        exact .emptyMenu hoffers
    | cons first others =>
      constructor
      · intro h
        cases h with
        | menu hothers _ => rw [hunique hothers]; exact ⟨rfl, rfl⟩
        | emptyMenu hothers => exact absurd (hunique hothers) (by simp)
      · rintro ⟨-, rfl⟩
        exact .menu hoffers (by simp)

section Transfer

variable {play : Play} {destination : Destination} {outcome : Outcome ResolutionError Scene}

theorem transfer_of_fault {fault : Fault}
    (h : play.library.resolve destination play.place.file = .error fault) :
    play.transfer destination = (play, some fault) := by
  rw [transfer, h]

/-- A look-up that finds a block leads into it. -/
theorem transfer_of_scene {scene : Scene}
    (h : play.library.resolve destination play.place.file = .ok outcome)
    (hscene : outcome.result = .ok scene) :
    play.transfer destination = ((play.absorb outcome).enter scene, none) := by
  rw [transfer, h]
  simp only [hscene]

/-- A look-up that finds none halts the play with the reason, which is written to the log. -/
theorem transfer_of_error {error : ResolutionError}
    (h : play.library.resolve destination play.place.file = .ok outcome)
    (herror : outcome.result = .error error) :
    play.transfer destination =
      (((play.absorb outcome).note (.unresolved destination play.place error)).halt
        (.unresolved destination error), none) := by
  rw [transfer, h]
  simp only [herror]
  rfl

/-- Going to a destination is what the rules for jumps say. -/
theorem transfer_iff (scroll : Scroll) :
    Scroll.Obeys (.jump destination) play.scroll scroll ↔
      (play.transfer destination).2 = none ∧ (play.transfer destination).1.scroll = scroll := by
  constructor
  · intro h
    cases h with
    | jump hresolve hscene =>
      rw [transfer_of_scene hresolve hscene]
      exact ⟨rfl, scroll_enter _ _⟩
    | lost hresolve herror =>
      rw [transfer_of_error hresolve herror]
      exact ⟨rfl, rfl⟩
  · rintro ⟨hnone, rfl⟩
    cases hresolve : play.library.resolve destination play.place.file with
    | error fault =>
      rw [transfer_of_fault hresolve] at hnone
      cases hnone
    | ok outcome =>
      cases hresult : outcome.result with
      | ok scene =>
        rw [transfer_of_scene hresolve hresult, scroll_enter]
        exact .jump hresolve hresult
      | error error =>
        rw [transfer_of_error hresolve hresult]
        exact .lost hresolve hresult

end Transfer

/-- A change that can be done is done, and then the game-over flag decides whether the play goes on.
    -/
theorem execute_change {play : Play} {change : StateChange} {state : State}
    (h : change.apply play.state = .ok state) :
    play.execute (.change change) =
      (if state.isGameOver then { play with state }.halt .gameOver else { play with state },
        none) := by
  rw [execute, h]

/-- Changing the state is what the rules for changes say. -/
theorem change_iff (play : Play) (change : StateChange) (scroll : Scroll) :
    Scroll.Obeys (.change change) play.scroll scroll ↔
      (play.execute (.change change)).2 = none ∧
        (play.execute (.change change)).1.scroll = scroll := by
  constructor
  · intro h
    cases h with
    | change happly hgo =>
      rw [execute_change happly, hgo]
      exact ⟨rfl, rfl⟩
    | gameOver happly hover =>
      rw [execute_change happly, hover]
      exact ⟨rfl, rfl⟩
  · rintro ⟨hnone, rfl⟩
    cases happly : change.apply play.state with
    | error fault =>
      rw [execute, happly] at hnone
      cases hnone
    | ok state =>
      rw [execute_change happly]
      cases hover : state.isGameOver with
      | false => exact @Scroll.Obeys.change play.scroll change state happly hover
      | true => exact @Scroll.Obeys.gameOver play.scroll change state happly hover

/-- A branch that is taken stands in front of what was ahead, whether or not there is anything in
    it. -/
theorem execute_conditional {play : Play} {condition : Condition} {thenNodes elseNodes : List Node}
    {truth : Bool} (h : condition.evaluate play.state = .ok truth) :
    (play.execute (.conditional condition thenNodes elseNodes)).2 = none ∧
      (play.execute (.conditional condition thenNodes elseNodes)).1.scroll =
        { play.scroll with
          ahead := (if truth then thenNodes else elseNodes) ++ play.scroll.ahead } := by
  rw [execute, h]
  dsimp only
  cases (if truth then thenNodes else elseNodes) with
  | nil => exact ⟨rfl, rfl⟩
  | cons node rest => exact ⟨rfl, rfl⟩

/-- Taking a branch is what the rule for conditionals says. -/
theorem conditional_iff (play : Play) (condition : Condition) (thenNodes elseNodes : List Node)
    (scroll : Scroll) :
    Scroll.Obeys (.conditional condition thenNodes elseNodes) play.scroll scroll ↔
      (play.execute (.conditional condition thenNodes elseNodes)).2 = none ∧
        (play.execute (.conditional condition thenNodes elseNodes)).1.scroll = scroll := by
  constructor
  · intro h
    cases h with
    | conditional heval => exact execute_conditional heval
  · rintro ⟨hnone, rfl⟩
    cases heval : condition.evaluate play.state with
    | error fault =>
      rw [execute, heval] at hnone
      cases hnone
    | ok truth =>
      rw [(execute_conditional heval).2]
      exact .conditional heval

/-- Doing what a node says is what its rule says. -/
theorem execute_iff (play : Play) (node : Node) (scroll : Scroll) :
    Scroll.Obeys node play.scroll scroll ↔
      (play.execute node).2 = none ∧ (play.execute node).1.scroll = scroll := by
  cases node with
  | text run =>
    rw [execute, scroll_display]
    constructor
    · intro h
      cases h
      exact ⟨rfl, rfl⟩
    · rintro ⟨-, rfl⟩
      exact .text
  | change change => exact change_iff play change scroll
  | conditional condition thenNodes elseNodes =>
    exact conditional_iff play condition thenNodes elseNodes scroll
  | menu choices => exact offer_iff play choices scroll
  | jump destination => exact transfer_iff scroll
  | unknown form =>
    constructor
    · intro h; cases h
    · rintro ⟨h, -⟩; cases h

/-! ## Steps and runs

  A step takes a node off the stack, which takes it off the list as well, and does what it says.  So
  the lemmas about single nodes settle the step. -/

theorem step_of_exhausted {play : Play} (hrun : play.status.isRunning = true)
    (h : Cursor.takeNode play.cursors = none) :
    play.step = (play.halt (.blockExhausted play.place), none) := by
  rw [step, if_pos hrun, h]

/-- Otherwise a step is what the node does, for the status that is brought up to date afterwards is
    not seen. -/
theorem step_of_node {play : Play} {node : Node} {cursors : List Cursor}
    (hrun : play.status.isRunning = true)
    (h : Cursor.takeNode play.cursors = some (node, cursors)) :
    play.step.2 = ({ play with cursors }.execute node).2 ∧
      play.step.1.scroll = ({ play with cursors }.execute node).1.scroll := by
  rw [step, if_pos hrun, h]
  cases hexecute : Play.execute { play with cursors } node with
  | mk next fault =>
    cases fault with
    | none => simp only [hexecute, scroll_refresh, and_self]
    | some fault => simp only [hexecute, and_self]

/-- A step without a fault is a turn. -/
theorem turns_of_step {play : Play} (hrun : play.status.isRunning = true)
    (hnone : play.step.2 = none) : play.scroll.Turns play.step.1.scroll := by
  have hgoing := (isRunning_iff_going play).1 hrun
  cases htake : Cursor.takeNode play.cursors with
  | none =>
    rw [step_of_exhausted hrun htake]
    exact .exhausted hgoing (Cursor.allAhead_of_takeNode_none htake)
  | some taken =>
    obtain ⟨node, cursors⟩ := taken
    obtain ⟨hfault, hscroll⟩ := step_of_node hrun htake
    refine .node hgoing (Cursor.allAhead_of_takeNode htake) ?_
    rw [hscroll]
    exact (execute_iff { play with cursors } node _).2 ⟨hfault ▸ hnone, rfl⟩

/-- A turn is a step without a fault. -/
theorem step_of_turns {play : Play} {scroll : Scroll} (h : play.scroll.Turns scroll) :
    play.status.isRunning = true ∧ play.step.2 = none ∧ play.step.1.scroll = scroll := by
  have hrun := (isRunning_iff_going play).2 (by cases h <;> assumption)
  refine ⟨hrun, ?_⟩
  cases htake : Cursor.takeNode play.cursors with
  | none =>
    -- No node to take and nothing ahead: the rule for nodes does not apply.
    have hahead : play.scroll.ahead = [] := Cursor.allAhead_of_takeNode_none htake
    rw [step_of_exhausted hrun htake]
    cases h with
    | exhausted _ _ => exact ⟨rfl, rfl⟩
    | node _ hfirst _ => rw [hahead] at hfirst; cases hfirst
  | some taken =>
    obtain ⟨node, cursors⟩ := taken
    have hahead : play.scroll.ahead = _ := Cursor.allAhead_of_takeNode htake
    obtain ⟨hfault, hscroll⟩ := step_of_node hrun htake
    rw [hfault, hscroll]
    cases h with
    | exhausted _ hend => rw [hahead] at hend; cases hend
    | node _ hfirst hobeys =>
      -- The first node ahead is the node that was taken, so it is the same node that the rule
      -- obeys.
      rw [hahead] at hfirst
      cases hfirst
      exact (execute_iff { play with cursors } node scroll).1 hobeys

/-- **A step is one turn.** What the rules allow the laid-out play to become is exactly what a step
    makes of it, provided that the play is running and the step has no fault. -/
theorem turns_scroll_iff (play : Play) (scroll : Scroll) :
    play.scroll.Turns scroll ↔
      play.status.isRunning = true ∧ play.step.2 = none ∧ play.step.1.scroll = scroll := by
  constructor
  · exact step_of_turns
  · rintro ⟨hrun, hnone, rfl⟩
    exact turns_of_step hrun hnone

end Play

/-- So many turns, one after the other. -/
inductive Scroll.TurnsIn : Nat → Scroll → Scroll → Prop
  | zero {scroll : Scroll} : TurnsIn 0 scroll scroll
  | succ {count : Nat} {scroll next last : Scroll} (hfirst : scroll.Turns next)
      (hrest : TurnsIn count next last) : TurnsIn (count + 1) scroll last

namespace Play

/-- A run begins with a step, and goes on from there if the step had no fault. -/
theorem runSteps_of_step {limit : Int} {count : Nat} {play : Play}
    (hrun : play.status.isRunning = true) (hnone : play.step.2 = none) :
    runSteps limit (count + 1) play = runSteps limit count play.step.1 := by
  rw [runSteps, if_pos hrun]
  cases hstep : play.step with
  | mk next fault =>
    rw [hstep] at hnone
    cases hnone
    rfl

/-- A run ends with the first step that has a fault, and has that fault. -/
theorem runSteps_of_fault {limit : Int} {count : Nat} {play : Play} {fault : Fault}
    (hrun : play.status.isRunning = true) (hfault : play.step.2 = some fault) :
    (runSteps limit (count + 1) play).2 = some fault := by
  rw [runSteps, if_pos hrun]
  cases hstep : play.step with
  | mk next other =>
    rw [hstep] at hfault
    cases hfault
    rfl

/-- A run without a fault is so many turns, up to a scroll that is no longer going; only when the
    turns are used up does it halt one that still is. -/
theorem runSteps_turns (limit : Int) (count : Nat) (play : Play)
    (hnone : (runSteps limit count play).2 = none) :
    ∃ turns scroll, turns ≤ count ∧ Scroll.TurnsIn turns play.scroll scroll ∧
      (scroll.standing ≠ .going ∧ (runSteps limit count play).1.scroll = scroll ∨
        turns = count ∧ scroll.standing = .going ∧
          (runSteps limit count play).1.scroll =
            { scroll with ahead := [], standing := .halted (.stepLimit scroll.place) }) := by
  induction count generalizing play with
  | zero =>
    refine ⟨0, play.scroll, Nat.le_refl 0, .zero, ?_⟩
    rw [runSteps]
    split
    next hrun => exact .inr ⟨rfl, (isRunning_iff_going play).1 hrun, rfl⟩
    next hrun => exact .inl ⟨fun h => hrun ((isRunning_iff_going play).2 h), rfl⟩
  | succ count ih =>
    by_cases hrun : play.status.isRunning = true
    · have hstep : play.step.2 = none := by
        cases hfault : play.step.2 with
        | none => rfl
        | some fault => rw [runSteps_of_fault hrun hfault] at hnone; cases hnone
      rw [runSteps_of_step hrun hstep] at hnone ⊢
      obtain ⟨turns, scroll, hle, hturns, hlast⟩ := ih play.step.1 hnone
      refine ⟨turns + 1, scroll, by omega, .succ (turns_of_step hrun hstep) hturns, ?_⟩
      rcases hlast with hlast | ⟨rfl, hlast⟩
      · exact .inl hlast
      · exact .inr ⟨rfl, hlast⟩
    · refine ⟨0, play.scroll, Nat.zero_le _, .zero, .inl ⟨?_, ?_⟩⟩
      · exact fun h => hrun ((isRunning_iff_going play).2 h)
      · rw [runSteps, if_neg hrun]

end Play
end Gamebook
