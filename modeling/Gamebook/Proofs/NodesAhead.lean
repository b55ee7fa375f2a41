/-
  Within a block a play always gets somewhere.

  A step passes one node, but neither the height of the stack nor the indices in it tell how many
  steps are left: a conditional puts a branch on the stack, and a menu of which nothing is offered
  is passed over as if it were not there.  What gets less with every step is the number of nodes
  ahead, provided that those in both branches of a conditional are counted, at every depth and for
  all cursors together.

  * `Play.nodesAhead`: this number.
  * `Scroll.Obeys.lessens`: a node that is obeyed leaves fewer nodes ahead, unless it is a jump to a
    block or ends the turns.  One case for each rule.
  * `nodesAhead_step`: therefore a step enters a block, or stops the play, or leaves fewer nodes
    ahead than there were.
  * `exists_arrives`: by induction on the number of nodes ahead, so many steps and one more get the
    play into a block or to a stop.  The last of them finds that nothing is left.

  A play that never stops gets into blocks again and again, for after each of them the nodes ahead
  are as good as none (`enters_unless_stopped`).
-/
import Gamebook.Proofs.StepLimit

namespace Gamebook

/-! ## Counting nodes

  Counting the branches along with the conditional makes the count go down when one of them is put
  on the stack: the other one is gone, and so is the conditional itself. -/

mutual

/-- A node and the nodes in it: a conditional counts for itself and for those in both of its
    branches. -/
def Node.count : Node → Nat
  | .conditional _ thenNodes elseNodes => 1 + Node.countAll thenNodes + Node.countAll elseNodes
  | .text _ | .change _ | .menu _ | .jump _ | .unknown _ => 1

/-- Some nodes and the nodes in them. -/
def Node.countAll : List Node → Nat
  | [] => 0
  | node :: rest => node.count + Node.countAll rest

end

/-- Every node counts for one at least. -/
theorem Node.count_pos (node : Node) : 0 < node.count := by
  cases node with
  | conditional condition thenNodes elseNodes =>
    rw [count]
    omega
  | _ => exact Nat.one_pos

theorem Node.countAll_append (nodes others : List Node) :
    countAll (nodes ++ others) = countAll nodes + countAll others := by
  induction nodes with
  | nil => rw [List.nil_append, countAll, Nat.zero_add]
  | cons node rest ih => rw [List.cons_append, countAll, countAll, ih, Nat.add_assoc]

/-- The branch that is taken counts for less than its conditional. -/
theorem Node.countAll_branch (condition : Condition) (thenNodes elseNodes : List Node)
    (truth : Bool) : countAll (if truth then thenNodes else elseNodes) <
      (Node.conditional condition thenNodes elseNodes).count := by
  rw [count]
  split <;> omega

/-- A node that is obeyed stops the turns, or is a jump to a block, or leaves fewer nodes ahead. -/
theorem Scroll.Obeys.lessens {node : Node} {scroll next : Scroll} (h : Obeys node scroll next) :
    next.standing ≠ .going ∨
      (∃ destination outcome scene, node = .jump destination ∧
        scroll.library.resolve destination scroll.place.file = .ok outcome ∧
        outcome.result = .ok scene) ∨
      Node.countAll next.ahead < node.count + Node.countAll scroll.ahead := by
  have hpassed := node.count_pos
  cases h with
  | text => exact .inr (.inr (Nat.lt_add_of_pos_left hpassed))
  | change happly hgo => exact .inr (.inr (Nat.lt_add_of_pos_left hpassed))
  | gameOver happly hover => exact .inl nofun
  | @conditional _ condition thenNodes elseNodes truth heval =>
    -- The branch is put in front of what was ahead, and counts for less than the conditional did.
    have hbranch := Node.countAll_branch condition thenNodes elseNodes truth
    refine .inr (.inr ?_)
    rw [Node.countAll_append]
    omega
  | menu hoffers hsome => exact .inl nofun
  | emptyMenu hoffers => exact .inr (.inr (Nat.lt_add_of_pos_left hpassed))
  | jump hresolve hscene => exact .inr (.inl ⟨_, _, _, rfl, hresolve, hscene⟩)
  | lost hresolve herror => exact .inl nofun

namespace Play

/-! ## One step

  A step takes the next node and obeys it.  The rules for single nodes are those of `Scroll.Obeys`,
  so what is known of them is known of steps. -/

/-- How many nodes are ahead, those of all cursors and in both branches of every conditional. -/
def nodesAhead (play : Play) : Nat := Node.countAll (Cursor.allAhead play.cursors)

/-- The next step passes a jump and enters the block that it leads to, of which no node has been
    passed then. -/
structure Enters (play : Play) (scene : Scene) : Prop where
  jump : ∃ destination rest, Cursor.takeNode play.cursors = some (.jump destination, rest)
  visits : play.stepVisits = [scene]
  place : play.step.1.place = scene.place
  cursors : play.step.1.cursors = [{ nodes := scene.block.nodes }]

variable {play : Play}

theorem place_refresh (play : Play) : play.refresh.place = play.place := by
  rw [refresh]
  split <;> rfl

theorem cursors_refresh (play : Play) : play.refresh.cursors = play.cursors := by
  rw [refresh]
  split <;> rfl

/-- A step that takes a jump to a block enters the block. -/
theorem enters_of_jump (hrun : play.status.isRunning = true) {destination : Destination}
    {cursors : List Cursor}
    (htake : Cursor.takeNode play.cursors = some (.jump destination, cursors))
    {outcome : Outcome ResolutionError Scene} {scene : Scene}
    (hresolve : play.library.resolve destination play.place.file = .ok outcome)
    (hscene : outcome.result = .ok scene) : play.Enters scene := by
  have hvisits : play.stepVisits = [scene] := by
    rw [stepVisits, if_pos hrun, htake]
    show scenesFound (play.library.resolve destination play.place.file) = [scene]
    rw [hresolve, scenesFound]
    simp only [hscene]
  have htransfer : Play.execute { play with cursors } (.jump destination) =
      ((Play.absorb { play with cursors } outcome).enter scene, none) :=
    @transfer_of_scene { play with cursors } _ _ _ hresolve hscene
  have hstep : play.step.1 = ((Play.absorb { play with cursors } outcome).enter scene).refresh := by
    rw [step, if_pos hrun, htake]
    dsimp only
    rw [htransfer]
  refine ⟨⟨destination, cursors, htake⟩, hvisits, ?_, ?_⟩
  · rw [hstep, place_refresh]
    rfl
  · rw [hstep, cursors_refresh]
    rfl

/-- **The step lemma**: a step enters a block, or the play stops, or fewer nodes are ahead. -/
theorem nodesAhead_step (hrun : play.status.isRunning = true) (hnone : play.step.2 = none) :
    (∃ scene, play.Enters scene) ∨ play.step.1.status.isRunning = false ∨
      play.step.1.nodesAhead < play.nodesAhead := by
  cases htake : Cursor.takeNode play.cursors with
  -- Nothing is left: the step halts the play.
  | none =>
    rw [step_of_exhausted hrun htake]
    exact .inr (.inl rfl)
  | some taken =>
    obtain ⟨node, cursors⟩ := taken
    obtain ⟨hfault, hscroll⟩ := step_of_node hrun htake
    have hobeys : Scroll.Obeys node (Play.scroll { play with cursors }) play.step.1.scroll :=
      (execute_iff _ node _).2 ⟨hfault ▸ hnone, hscroll.symm⟩
    have hcount : play.nodesAhead = node.count + Node.countAll (Cursor.allAhead cursors) := by
      rw [nodesAhead, Cursor.allAhead_of_takeNode htake, Node.countAll]
    rcases hobeys.lessens with hstop | ⟨destination, outcome, scene, rfl, hresolve, hscene⟩ | hless
    · refine .inr (.inl (Bool.eq_false_iff.2 fun hstill => hstop ?_))
      exact (isRunning_iff_going play.step.1).1 hstill
    · exact .inl ⟨scene, enters_of_jump hrun htake hresolve hscene⟩
    · rw [hcount]
      exact .inr (.inr hless)

/-! ## Many steps

  The induction is on the number of nodes ahead, since nothing else gets less.  The fuel of a run
  plays no part in it. -/

/-- By the time that it has taken so many steps, the play has entered a block, waits for a choice,
    or has halted. -/
def Arrives (play : Play) (count : Nat) : Prop :=
  (∃ earlier < count, ∃ scene, (play.stepped earlier).Enters scene) ∨
    (∃ place choices, (play.stepped count).status = .awaitingChoice place choices) ∨
    ∃ halt, (play.stepped count).status = .halted halt

/-- A play that has stopped waits for a choice or has halted. -/
theorem arrives_of_stopped {count : Nat} (hstop : (play.stepped count).status.isRunning = false) :
    play.Arrives count := by
  cases hstatus : (play.stepped count).status with
  | running place index =>
    rw [hstatus] at hstop
    cases hstop
  | awaitingChoice place choices => exact .inr (.inl ⟨place, choices, hstatus⟩)
  | halted halt => exact .inr (.inr ⟨halt, hstatus⟩)

/-- Where a play arrives after its first step, it arrives one step later by itself. -/
theorem Arrives.afterStep {count : Nat} (h : play.step.1.Arrives count) :
    play.Arrives (count + 1) := by
  rcases h with ⟨earlier, hlt, hscene⟩ | hstopped
  · exact .inl ⟨earlier + 1, Nat.succ_lt_succ hlt, hscene⟩
  · exact .inr hstopped

/-- **The run lemma**: as many steps as there are nodes ahead, and one more, get the play into a
    block or to a stop. -/
theorem exists_arrives (hrun : play.status.isRunning = true)
    (hnone : ∀ count, (play.stepped count).step.2 = none) :
    ∃ count ≤ play.nodesAhead + 1, play.Arrives count := by
  induction hahead : play.nodesAhead using Nat.strongRecOn generalizing play with
  | ind ahead ih =>
    rcases nodesAhead_step hrun (hnone 0) with hscene | hstop | hless
    · exact ⟨1, by omega, .inl ⟨0, Nat.one_pos, hscene⟩⟩
    · exact ⟨1, by omega, arrives_of_stopped hstop⟩
    · by_cases hstill : play.step.1.status.isRunning = true
      · obtain ⟨count, hle, harrives⟩ :=
          ih play.step.1.nodesAhead (by omega) hstill (fun count => hnone (count + 1)) rfl
        exact ⟨count + 1, by omega, harrives.afterStep⟩
      · exact ⟨1, by omega, arrives_of_stopped (Bool.eq_false_iff.2 hstill)⟩

/-- **Within a block a play gets somewhere.** Let a play be running whose steps have no fault.
    Within as many steps as there are nodes ahead of it, and one more, it has entered a block, waits
    for a choice, or has halted. So a play that runs on and on enters blocks on and on: however far
    it has come, a step that enters a block is still ahead. -/
theorem enters_unless_stopped (hrun : play.status.isRunning = true)
    (hnone : ∀ count, (play.stepped count).step.2 = none) :
    (∃ count ≤ play.nodesAhead + 1, play.Arrives count) ∧
      ((∀ count, (play.stepped count).status.isRunning = true) →
        ∀ count, ∃ later, count ≤ later ∧ ∃ scene, (play.stepped later).Enters scene) := by
  refine ⟨exists_arrives hrun hnone, fun hgoing count => ?_⟩
  -- Steps after steps are steps, so what is known from the beginning on is known from any point on.
  have hlater : ∀ more, (play.stepped count).stepped more = play.stepped (count + more) :=
    fun more => (stepped_add count more).symm
  obtain ⟨steps, -, harrives⟩ := exists_arrives (hgoing count) fun more => by
    rw [hlater]
    exact hnone (count + more)
  rcases harrives with ⟨earlier, -, scene, hscene⟩ | ⟨place, choices, hstatus⟩ | ⟨halt, hstatus⟩
  · rw [hlater] at hscene
    exact ⟨count + earlier, Nat.le_add_right count earlier, scene, hscene⟩
  · have hstill := hgoing (count + steps)
    rw [← hlater, hstatus] at hstill
    cases hstill
  · have hstill := hgoing (count + steps)
    rw [← hlater, hstatus] at hstill
    cases hstill

/-! ## Going round

  For the example a play is needed that never stops.  It has to be shown of one lap only that the
  play gets back to where it began, laid out as a scroll; the indices of the cursors may differ. -/

/-- Plays that look the same when they are laid out go the same way. -/
theorem scroll_stepped_congr {other : Play} (h : other.scroll = play.scroll) {count : Nat}
    (hgoing : ∀ earlier < count, (play.stepped earlier).status.isRunning = true ∧
      (play.stepped earlier).step.2 = none) :
    (other.stepped count).scroll = (play.stepped count).scroll := by
  induction count generalizing play other with
  | zero => exact h
  | succ count ih =>
    obtain ⟨hrun, hnone⟩ := hgoing 0 (Nat.succ_pos count)
    have hturns : other.scroll.Turns play.step.1.scroll := h ▸ turns_of_step hrun hnone
    obtain ⟨-, -, hnext⟩ := step_of_turns hturns
    exact ih hnext fun earlier hlt => hgoing (earlier + 1) (Nat.succ_lt_succ hlt)

/-- A play that comes back to where it began goes round for ever. -/
theorem goesRound {lap : Nat} (hpos : 0 < lap)
    (hgoing : ∀ earlier < lap, (play.stepped earlier).status.isRunning = true ∧
      (play.stepped earlier).step.2 = none)
    (hlap : (play.stepped lap).scroll = play.scroll) (count : Nat) :
    (play.stepped count).status.isRunning = true ∧ (play.stepped count).step.2 = none := by
  induction count using Nat.strongRecOn with
  | ind count ih =>
    rcases Nat.lt_or_ge count lap with hlt | hge
    · exact hgoing count hlt
    · obtain ⟨more, rfl⟩ := Nat.exists_eq_add_of_le hge
      have hsame : (play.stepped (lap + more)).scroll = (play.stepped more).scroll := by
        rw [stepped_add]
        exact scroll_stepped_congr hlap fun earlier hlt => ih earlier (by omega)
      obtain ⟨hrun, hnone⟩ := ih more (by omega)
      have hturns : (play.stepped (lap + more)).scroll.Turns (play.stepped more).step.1.scroll :=
        hsame ▸ turns_of_step hrun hnone
      obtain ⟨hgoes, hfree, -⟩ := step_of_turns hturns
      exact ⟨hgoes, hfree⟩

/-- A maze with a bend that leads back to itself: the lamp is out and the gate is shut. -/
def maze : Play :=
  { library := ({} : Library).register "maze"
      { fileId := "maze"
        blocks := [
          { name := "bend"
            nodes := [
              .conditional (.flag "lit" true) [.jump (.block "gate")]
                [.menu [⟨"Out", .block "gate", some (.flag "open" true), []⟩]],
              .jump (.block "bend")] }]
        entry := some "bend" } }

/-- Standing in the bend. -/
def bend : Play := maze.perform (.enter "maze" none)

/-- A lap has three steps, in front of which there are four nodes, two and one: the branch that is
    not taken goes away together with its conditional. -/
theorem enters_unless_stopped_bend :
    bend.nodesAhead = 4 ∧ (bend.stepped 1).nodesAhead = 2 ∧ (bend.stepped 2).nodesAhead = 1 ∧
      (∃ count ≤ 5, bend.Arrives count) ∧
      ∀ count, ∃ later, count ≤ later ∧ ∃ scene, (bend.stepped later).Enters scene := by
  have hgoing : ∀ earlier < 3, (bend.stepped earlier).status.isRunning = true ∧
      (bend.stepped earlier).step.2 = none := by decide +kernel
  have hlap : (bend.stepped 3).scroll = bend.scroll := rfl
  have hround := goesRound (by decide) hgoing hlap
  obtain ⟨harrives, henters⟩ :=
    enters_unless_stopped (hround 0).1 fun count => (hround count).2
  exact ⟨rfl, rfl, rfl, harrives, henters fun count => (hround count).1⟩

end Play
end Gamebook
