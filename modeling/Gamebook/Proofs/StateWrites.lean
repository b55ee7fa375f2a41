/-
  What a play does to its state.

  Everything that a play executes can read the state, but only a change writes to it, and entering a
  block records the place.  So the state that a play has come to can be told from the nodes it has
  passed and the blocks it has entered: `State.replay` does the writing of the nodes again, and
  `State.reach` puts the place of the block that was entered last.

  * `Play.Writes`: from the one play to the other the state has changed by just these nodes and
    these blocks.  It composes (`Writes.trans`), because a change neither reads nor writes the place
    (`replay_setProgress`), so that all the places but the last can be forgotten.
  * `coversNodes_writes`: so it is a history, and each move has its place in it.  What one step
    writes, and what a choice does, can be read off (`writes_step`, `writes_follow`).
  * `writes_performAll`: the same of any acts but those by which a caller writes to the state.
  * `State.KeptBut`: what follows for the single flag, the single counter and the place: they are as
    they were, but for those that one of the nodes is a change of.
-/
import Gamebook.Proofs.Histories

namespace Gamebook

/-! ## What nodes write

  The writing of nodes can be replayed, because it depends on the state alone and not on the rest of
  the play.  Places are kept out of it: they are written by entering blocks, and a change neither
  reads nor writes them, so writing and entering can be exchanged (`replay_reach`).  Of the blocks
  only the last one is left to be seen. -/

namespace State

/-- The state after the writing of some nodes, the one executed last first. -/
def replay (state : State) (nodes : List Node) : State := nodes.foldr Node.write state

/-- The state after some blocks have been entered, the one entered last first. -/
def reach (state : State) : List Scene → State
  | [] => state
  | scene :: _ => state.setProgress scene.place

theorem replay_append (state : State) (later earlier : List Node) :
    state.replay (later ++ earlier) = (state.replay earlier).replay later :=
  List.foldr_append

theorem reach_append (state : State) (later earlier : List Scene) :
    state.reach (later ++ earlier) = (state.reach earlier).reach later := by
  cases later with
  | nil => rfl
  | cons scene rest => cases earlier <;> rfl

/-- A change writes the same whatever the place. -/
theorem write_setProgress (node : Node) (state : State) (place : Place) :
    node.write (state.setProgress place) = (node.write state).setProgress place := by
  cases node with
  | change change =>
    obtain ⟨operation, target, amount⟩ := change
    cases operation <;> rfl
  | _ => rfl

/-- So whole rows of nodes write the same whatever the place, one node after the other. -/
theorem replay_setProgress (state : State) (nodes : List Node) (place : Place) :
    (state.setProgress place).replay nodes = (state.replay nodes).setProgress place := by
  induction nodes with
  | nil => rfl
  | cons node rest ih =>
    show node.write ((state.setProgress place).replay rest) = _
    rw [ih, write_setProgress]
    rfl

/-- Blocks may be entered before the writing or after it, the state comes out the same. -/
theorem replay_reach (state : State) (nodes : List Node) (entered : List Scene) :
    (state.reach entered).replay nodes = (state.replay nodes).reach entered := by
  cases entered with
  | nil => rfl
  | cons scene rest => exact replay_setProgress state nodes scene.place

end State

/-! ## What plays write

  That `Writes` composes is the whole point of the exchange: on the way from the first play to the
  third, nodes and blocks come in turn, and are sorted here into the nodes and then the blocks. -/

namespace Play

/-- From the one play to the other the state has changed by the writing of these nodes and by
    entering these blocks, and by nothing else. -/
def Writes (before after : Play) (nodes : List Node) (entered : List Scene) : Prop :=
  after.state = (before.state.replay nodes).reach entered

/-- What is written on two stretches is written on both together. The blocks of the earlier stretch
    are moved past the nodes of the later one. -/
theorem Writes.trans {first second third : Play} {earlier later : List Node}
    {before after : List Scene} (h : first.Writes second earlier before)
    (hlater : second.Writes third later after) :
    first.Writes third (later ++ earlier) (after ++ before) := by
  rw [Writes, hlater, h, State.replay_reach, ← State.replay_append, ← State.reach_append]

/-- The nodes of some passages. -/
def passed (passages : List Passage) : List Node := passages.map Passage.node

/-- What is written is a history: passing a node writes what the node says, arriving at a block
    writes its place, and nothing else writes anything. -/
theorem coversNodes_writes : History.CoversNodes fun before after passages entered =>
    before.Writes after (passed passages) entered where
  refl play := rfl
  trans h hlater := by
    have hboth := h.trans hlater
    rw [passed, passed, ← List.map_append] at hboth
    exact hboth
  aside h := h.state
  supply _ _ := rfl
  arrive _ _ := rfl
  pass _ _ := rfl
  gameOver play := rfl

/-- **A step writes what the node says that it executes.** -/
theorem writes_step (play : Play) :
    play.Writes play.step.1 (passed play.stepPassages) play.stepVisits :=
  coversNodes_writes.step play

/-- **A choice writes nothing**, but enters the block that it leads to. -/
theorem writes_follow (play : Play) (selection : Selection) :
    play.Writes (play.follow selection).1 [] (play.followVisits selection) :=
  coversNodes_writes.follow play selection

/-- **What a play is played through is all that writes to its state**: the changes that it passes,
    in their order, and the last of the blocks that it enters. -/
theorem writes_performAll (play : Play) {acts : List Act}
    (hacts : ∀ act ∈ acts, act.writesState = false) :
    play.Writes (play.performAll acts) (passed (play.passages acts)) (play.visits acts) := by
  refine coversNodes_writes.coversSteps.performAll play fun act hact hwrite => ?_
  -- A caller who writes to the state is excluded here.
  rw [hacts act hact] at hwrite
  cases hwrite

end Play

/-! ## What is kept

  To say what changes is to say what does not.  A flag or a counter that differs afterwards has a
  writer among the nodes: looking back from the end, the last node at which the value became what it
  is.  Everything else about the state is as it was, the place excepted. -/

/-- The node is a change of this flag. -/
def Node.WritesFlag (node : Node) (name : String) : Prop :=
  ∃ change : StateChange, node = .change change ∧ change.target = name ∧
    (change.operation = .setFlag ∨ change.operation = .clearFlag)

/-- The node is a change of this counter. -/
def Node.WritesCounter (node : Node) (name : String) : Prop :=
  ∃ change : StateChange, node = .change change ∧ change.target = name ∧
    (change.operation = .increment ∨ change.operation = .decrement ∨
      change.operation = .setCounter)

namespace State

/-- From the one state to the other everything is kept but for the flags and the counters that one
    of the nodes is a change of, and for the place where a block has been entered. -/
structure KeptBut (before after : State) (nodes : List Node) (entered : List Scene) : Prop where
  flags : ∀ name, after.flags.get? name ≠ before.flags.get? name →
    ∃ node ∈ nodes, node.WritesFlag name
  counters : ∀ name, after.counters.get? name ≠ before.counters.get? name →
    ∃ node ∈ nodes, node.WritesCounter name
  progress : after.progress = (entered.head?.map Scene.place).getD before.progress
  name : after.name = before.name

/-- Only the name that is written to is looked up otherwise than before. -/
theorem eq_of_get?_insert_ne {α : Type} {table : Table α} {target name : String} {value : α}
    (h : (table.insert target value).get? name ≠ table.get? name) : target = name := by
  by_contra hother
  exact h ((Table.get?_insert _ _ _ _).trans (if_neg (Ne.symm hother)))

/-- A node that changes something changes a flag or a counter, its target, and nothing else. -/
theorem keptBut_write (node : Node) (state : State) :
    state.KeptBut (node.write state) [node] [] := by
  cases node with
  | change change =>
    obtain ⟨operation, target, amount⟩ := change
    have hhere : ∀ {P : Node → Prop}, P (.change ⟨operation, target, amount⟩) →
        ∃ node ∈ [Node.change ⟨operation, target, amount⟩], P node :=
      fun h => ⟨_, List.mem_singleton.2 rfl, h⟩
    cases operation with
    | setFlag =>
      exact ⟨fun name h => hhere ⟨_, rfl, eq_of_get?_insert_ne h, .inl rfl⟩,
        fun name h => absurd rfl h, rfl, rfl⟩
    | clearFlag =>
      exact ⟨fun name h => hhere ⟨_, rfl, eq_of_get?_insert_ne h, .inr rfl⟩,
        fun name h => absurd rfl h, rfl, rfl⟩
    | increment =>
      exact ⟨fun name h => absurd rfl h,
        fun name h => hhere ⟨_, rfl, eq_of_get?_insert_ne h, .inl rfl⟩, rfl, rfl⟩
    | decrement =>
      exact ⟨fun name h => absurd rfl h,
        fun name h => hhere ⟨_, rfl, eq_of_get?_insert_ne h, .inr (.inl rfl)⟩, rfl, rfl⟩
    | setCounter =>
      exact ⟨fun name h => absurd rfl h,
        fun name h => hhere ⟨_, rfl, eq_of_get?_insert_ne h, .inr (.inr rfl)⟩, rfl, rfl⟩
    | other operation => exact ⟨fun name h => absurd rfl h, fun name h => absurd rfl h, rfl, rfl⟩
  | _ => exact ⟨fun name h => absurd rfl h, fun name h => absurd rfl h, rfl, rfl⟩

/-- What differs after some nodes and one more does so because of the one or of the others. -/
theorem exists_writer {α : Type} {first second third : Option α} {writes : Node → Prop}
    {node : Node} {rest : List Node} (hrest : second ≠ first → ∃ writer ∈ rest, writes writer)
    (hnode : third ≠ second → ∃ writer ∈ [node], writes writer) (h : third ≠ first) :
    ∃ writer ∈ node :: rest, writes writer := by
  -- Either the last node has made the difference, or it was there before.
  by_cases hsame : second = first
  · obtain ⟨writer, hwriter, hwrites⟩ := hnode (hsame ▸ h)
    exact ⟨writer, List.mem_singleton.1 hwriter ▸ List.mem_cons_self, hwrites⟩
  · obtain ⟨writer, hwriter, hwrites⟩ := hrest hsame
    exact ⟨writer, List.mem_cons_of_mem _ hwriter, hwrites⟩

/-- **A row of nodes** writes to no more than its nodes write to, by induction on the row. -/
theorem keptBut_replay (nodes : List Node) (state : State) :
    state.KeptBut (state.replay nodes) nodes [] := by
  induction nodes with
  | nil => exact ⟨fun name h => absurd rfl h, fun name h => absurd rfl h, rfl, rfl⟩
  | cons node rest ih =>
    have hnode := keptBut_write node (state.replay rest)
    exact ⟨fun name => exists_writer (ih.flags name) (hnode.flags name),
      fun name => exists_writer (ih.counters name) (hnode.counters name),
      hnode.progress.trans ih.progress, hnode.name.trans ih.name⟩

/-- Entering blocks changes the place and nothing else. -/
theorem keptBut_reach {before after : State} {nodes : List Node}
    (h : before.KeptBut after nodes []) (entered : List Scene) :
    before.KeptBut (after.reach entered) nodes entered := by
  cases entered with
  | nil => exact h
  | cons scene rest => exact ⟨h.flags, h.counters, rfl, h.name⟩

end State

/-- **What plays write is all that changes.** -/
theorem Play.Writes.keptBut {before after : Play} {nodes : List Node} {entered : List Scene}
    (h : before.Writes after nodes entered) : before.state.KeptBut after.state nodes entered := by
  rw [h]
  exact State.keptBut_reach (State.keptBut_replay nodes before.state) entered

end Gamebook
