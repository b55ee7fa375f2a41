/-
  Game over is final.

  A story ends its play by putting up one flag.  The flag is looked at in one place only, right
  after a change of the state has been made; going to a block, offering a menu and showing text do
  not ask for it.  That one place is enough, because nothing else in a story writes a flag:

  * `Play.IsGoing`: the flag is down, and the play has not halted because of it.
  * `Passage.EndsGame`: a change finds the flag down and puts it up, and the play halts.
  * `Passage.going_or_endsGame`: the step lemma, one case for each kind of node.  After a node a
    play is going as before, unless the node is such a change.
  * `Settled`: what this comes to for many nodes.  It holds of every step, run and act of a play
    that is going (`step_settled`, `runSteps_settled`, `perform_settled`), and a play that is over
    keeps it (`perform_of_halted`).
  * `gameOver_final`: what it means for every play from its beginning on.

  A play that is going can be moved about in any way, since jumps, menus and halts for other reasons
  write no flag (`coversMoves_going`).  So only changes have to be looked at, and of these only one
  that puts the flag up: it halts the play on the spot, before any other node gets a turn.
-/
import Gamebook.Proofs.Histories

namespace Gamebook

/-! ## Going on, and ending -/

/-- The flag that ends a play is down, and the play has not halted because of it. -/
structure Play.IsGoing (play : Play) : Prop where
  down : play.state.isGameOver = false
  status : play.status ≠ .halted .gameOver

/-- The node is a change of the state that finds the flag down and puts it up, and the play halts
    because of it. -/
structure Passage.EndsGame (passage : Passage) : Prop where
  change : ∃ change, passage.node = .change change ∧
    change.apply passage.before.state = .ok passage.after.state
  down : passage.before.state.isGameOver = false
  up : passage.after.state.isGameOver = true
  status : passage.after.status = .halted .gameOver

namespace Play

variable {play : Play}

/-- **A play that is going can be moved about.** No move but passing a node writes a flag, and none
    but a node that puts the flag up halts the play because of it. -/
theorem coversMoves_going : (History.keeps IsGoing).CoversMoves where
  refl _ h := h
  trans hfirst hlater h := hlater (hfirst h)
  aside haside h := by
    refine ⟨?_, fun hstatus => h.status (haside.status hstatus)⟩
    rw [haside.state]
    exact h.down
  supply _ _ h := ⟨h.down, h.status⟩
  arrive _ _ h := ⟨h.down, fun hstatus => by cases hstatus⟩

/-- Halting for another reason ends no game. -/
theorem IsGoing.halt (h : play.IsGoing) {halt : Halt} (hother : halt ≠ .gameOver) :
    (play.halt halt).IsGoing :=
  coversMoves_going.aside (isAside_halt play hother) h

end Play

/-- **The step lemma**: a play that is going still goes after any node, unless the node is a change
    that ends the game. -/
theorem Passage.going_or_endsGame {passage : Passage} (h : passage.before.IsGoing) :
    passage.after.IsGoing ∨ passage.EndsGame := by
  obtain ⟨node, play⟩ := passage
  have hsame : play.IsGoing := h
  cases node with
  | text run => exact .inl ⟨h.down, h.status⟩
  | change change =>
    cases happly : change.apply play.state with
    | error fault =>
      have hafter : Passage.after ⟨.change change, play⟩ = play := by
        rw [Passage.after, Play.execute, happly]
      rw [hafter]
      exact .inl hsame
    | ok state =>
      -- The flag is looked at right here, after the change and before anything else.
      cases hup : state.isGameOver with
      | false =>
        have hafter : Passage.after ⟨.change change, play⟩ = { play with state } := by
          rw [Passage.after, Play.execute_change happly, hup]
          rfl
        rw [hafter]
        exact .inl ⟨hup, h.status⟩
      | true =>
        have hafter : Passage.after ⟨.change change, play⟩ =
            Play.halt { play with state } .gameOver := by
          rw [Passage.after, Play.execute_change happly, hup]
          rfl
        refine .inr ⟨⟨change, rfl, ?_⟩, h.down, ?_, ?_⟩
        · rw [hafter]
          exact happly
        · rw [hafter]
          exact hup
        · rw [hafter]
          rfl
  | conditional condition thenNodes elseNodes =>
    rw [Passage.after, Play.execute]
    split
    next => exact .inl hsame
    next => split <;> exact .inl ⟨h.down, h.status⟩
  | menu choices =>
    exact .inl (Play.coversMoves_going.aside (Play.isAside_offer play choices) hsame)
  | jump destination => exact .inl (Play.coversMoves_going.transfer play destination hsame)
  | unknown form => exact .inl hsame

/-! ## Many nodes

  `Settled` has two ways of being true, and the second is one that cannot be left: once the game has
  ended the play stays still.  This makes it compose (`Settled.andThen`), although a later stretch
  is looked at only if the game is still going when it begins. -/

/-- How a play that was going stands after it has executed these nodes, the last one first: it is
    still going, or the last node has ended the game and nothing has happened since. No node was
    executed while the flag was up. -/
structure Settled (passages : List Passage) (last : Play) : Prop where
  down : ∀ passage ∈ passages, passage.before.state.isGameOver = false
  ending : last.IsGoing ∨ ∃ passage earlier, passages = passage :: earlier ∧ passage.EndsGame ∧
    passage.after.IsStill last

theorem Play.IsGoing.settled {play : Play} (h : play.IsGoing) : Settled [] play :=
  ⟨fun _ hmem => absurd hmem List.not_mem_nil, .inl h⟩

/-- Once the game has ended, what comes next executes nothing and changes nothing. -/
theorem Settled.andThen {earlier later : List Passage} {middle last : Play}
    (h : Settled earlier middle) (hgoing : middle.IsGoing → Settled later last)
    (hover : middle.status = .halted .gameOver → later = [] ∧ middle.IsStill last) :
    Settled (later ++ earlier) last := by
  rcases h.ending with hgoes | ⟨passage, before, hfirst, hends, hstill⟩
  · obtain ⟨hdown, hending⟩ := hgoing hgoes
    refine ⟨fun passage hmem => ?_, hending.imp_right ?_⟩
    · exact (List.mem_append.1 hmem).elim (hdown passage) (h.down passage)
    · rintro ⟨passage, between, rfl, hends, hstill⟩
      exact ⟨passage, between ++ earlier, rfl, hends, hstill⟩
  · obtain ⟨rfl, hlater⟩ := hover (hstill.status.trans hends.status)
    exact ⟨h.down, .inr ⟨passage, before, hfirst, hends, hstill.trans hlater⟩⟩

namespace Play

variable {play : Play}

/-- A step of a play that is going: its node ends the game, or the play goes on as before. At the
    end of a block the play halts, but the game is not over. -/
theorem step_settled (h : play.IsGoing) : Settled play.stepPassages play.step.1 := by
  by_cases hrun : play.status.isRunning = true
  · cases htake : Cursor.takeNode play.cursors with
    | none =>
      rw [stepPassages_of_exhausted htake, step_of_exhausted hrun htake]
      exact (h.halt fun hhalt => by cases hhalt).settled
    | some taken =>
      obtain ⟨node, cursors⟩ := taken
      let passage : Passage := { node, before := { play with cursors } }
      have hpassages : play.stepPassages = [passage] := stepPassages_of_takeNode hrun htake
      have hmem : passage ∈ play.stepPassages := by
        rw [hpassages]
        exact List.mem_singleton_self passage
      have hbefore : passage.before.IsGoing := ⟨h.down, h.status⟩
      rw [hpassages]
      refine ⟨fun other hother => ?_, ?_⟩
      · rw [List.mem_singleton.1 hother]
        exact h.down
      · rcases Passage.going_or_endsGame hbefore with hgoing | hends
        · left
          rcases fst_step_of_takeNode hrun htake with hstep | hstep
          · rw [hstep]
            exact coversMoves_going.aside (isAside_refresh _) hgoing
          · rw [hstep]
            exact hgoing
        · right
          refine ⟨passage, [], rfl, hends, ?_⟩
          rw [(step_of_halting hmem hends.status).2]
          exact .refl _
  · rw [stepPassages_of_not_running hrun, step, if_neg hrun]
    exact h.settled

/-- **The run lemma**: a run of a play that is going goes on until the game ends, if it does. -/
theorem runSteps_settled (h : play.IsGoing) (limit : Int) (count : Nat) :
    Settled (runStepsPassages count play) (runSteps limit count play).1 := by
  induction count generalizing play with
  | zero =>
    rw [runSteps]
    split
    next =>
      have hnoted : (play.note (.stepLimitReached limit play.place)).IsGoing := ⟨h.down, h.status⟩
      exact (hnoted.halt fun hhalt => by cases hhalt).settled
    next => exact h.settled
  | succ count ih =>
    by_cases hrun : play.status.isRunning = true
    · cases hfault : play.step.2 with
      | none =>
        rw [runSteps_of_step hrun hfault, runStepsPassages_of_step hrun hfault]
        refine (step_settled h).andThen (fun hgoing => ih hgoing) fun hover => ?_
        have hstop : ¬ play.step.1.status.isRunning = true := by
          rw [hover]
          exact Bool.false_ne_true
        rw [runSteps_of_not_running hstop, runStepsPassages_of_not_running hstop]
        exact ⟨rfl, .refl _⟩
      | some fault =>
        rw [fst_runSteps_of_fault hrun hfault, runStepsPassages_of_fault hrun hfault]
        exact step_settled h
    · rw [runSteps_of_not_running hrun, runStepsPassages_of_not_running hrun]
      exact h.settled

/-- And so does running on after a start or a choice. -/
theorem andRun_settled {result : Play × Option Failure} (h : result.1.IsGoing) :
    Settled (andRunPassages result) (andRun result).1 := by
  obtain ⟨play, failure⟩ := result
  cases failure with
  | none => exact runSteps_settled h defaultStepLimit defaultStepLimit.toNat
  | some failure => exact h.settled

/-! ## Acts -/

/-- Beginning a play with the flag down makes it go. If it cannot be begun, then it must not have
    been over before. -/
theorem enterFile_going (hdown : play.state.isGameOver = false) {fileId : String}
    {block : Option String}
    (hover : play.status = .halted .gameOver → (play.enterFile fileId block).2 = none) :
    (play.enterFile fileId block).1.IsGoing := by
  rw [enterFile] at hover ⊢
  cases hresolve : play.library.resolve (.file fileId block) fileId with
  | error fault =>
    rw [hresolve] at hover
    exact ⟨hdown, fun hstatus => by cases hover hstatus⟩
  | ok outcome =>
    rw [hresolve] at hover
    dsimp only at hover ⊢
    cases hresult : outcome.result with
    | ok scene =>
      exact ⟨hdown, fun hstatus => by cases hstatus⟩
    | error error =>
      rw [hresult] at hover
      exact ⟨hdown, fun hstatus => by cases hover hstatus⟩

/-- Every act but those that begin the play anew or write to its state from outside, by what it is
    made of. -/
theorem perform_settled (h : play.IsGoing) {act : Act} (hact : act.goesOn = true) :
    Settled (play.performPassages act) (play.perform act) := by
  cases act with
  | choose selection => exact andRun_settled (coversMoves_going.follow play selection h)
  | follow selection => exact IsGoing.settled (coversMoves_going.follow play selection h)
  | step => exact step_settled h
  | run limit => exact runSteps_settled h limit limit.toNat
  | load fileId text => exact IsGoing.settled (coversMoves_going.beside play rfl h)
  | loadFile fileId => exact IsGoing.settled (coversMoves_going.beside play rfl h)
  | get fileId => exact IsGoing.settled (coversMoves_going.beside play rfl h)
  | writeFile location content => exact IsGoing.settled (coversMoves_going.beside play rfl h)
  | _ => cases hact

/-- However many acts follow, they go on until the game ends, if it does. -/
theorem performAll_settled {passages : List Passage} (h : Settled passages play)
    {acts : List Act} (hacts : ∀ act ∈ acts, act.goesOn = true) :
    Settled (play.passages acts ++ passages) (play.performAll acts) := by
  induction acts generalizing play passages with
  | nil => exact h
  | cons act acts ih =>
    have hact := hacts act List.mem_cons_self
    -- If the game has ended before this act, the act changes nothing; so what was settled stays so.
    have hnext : Settled (play.performPassages act ++ passages) (play.perform act) :=
      h.andThen (fun hgoing => perform_settled hgoing hact) fun hover =>
        perform_of_halted hover hact
    have hlast := ih hnext fun other hother => hacts other (List.mem_cons_of_mem _ hother)
    rw [← List.append_assoc] at hlast
    exact hlast

/-- **Game over is final.** Begin a play with the flag down, at any block and with or without
    running on, and let anything follow but another beginning or a write to the state from outside.
    At every point the flag is up just when the play has halted with game over. If it is, then the
    change that put it up, having found it down, is the last node that was executed, and since then
    nothing has been shown or written and no block has been entered. -/
theorem gameOver_final {fileId : String} {block : Option String} {first : Act}
    (hfirst : first = .start fileId block ∨ first = .enter fileId block)
    (hdown : play.state.isGameOver = false)
    (hbegun : play.status = .halted .gameOver → (play.enterFile fileId block).2 = none)
    {acts : List Act} (hacts : ∀ act ∈ acts, act.goesOn = true) :
    let last := play.performAll (first :: acts)
    let passages := play.passages (first :: acts)
    (last.state.isGameOver = true ↔ last.status = .halted .gameOver) ∧
      (∀ passage ∈ passages, passage.before.state.isGameOver = false) ∧
      (last.state.isGameOver = true → ∃ passage earlier, passages = passage :: earlier ∧
        passage.EndsGame ∧ passage.after.IsStill last) := by
  intro last passages
  have hentered := enterFile_going hdown hbegun
  have hopening : Settled (play.performPassages first) (play.perform first) := by
    rcases hfirst with rfl | rfl
    · exact andRun_settled hentered
    · exact hentered.settled
  obtain ⟨hnone, hending⟩ : Settled passages last := performAll_settled hopening hacts
  rcases hending with hgoing | ⟨passage, earlier, hpassages, hends, hstill⟩
  · refine ⟨⟨fun hup => ?_, fun hover => absurd hover hgoing.status⟩, hnone, fun hup => ?_⟩
    · rw [hgoing.down] at hup
      cases hup
    · rw [hgoing.down] at hup
      cases hup
  · have hup : last.state.isGameOver = true := by
      rw [hstill.state]
      exact hends.up
    have hover : last.status = .halted .gameOver := by
      rw [hstill.status]
      exact hends.status
    exact ⟨⟨fun _ => hover, fun _ => hup⟩, hnone, fun _ => ⟨passage, earlier, hpassages, hends,
      hstill⟩⟩

/-- A tower with a step missing. -/
def towerText : String :=
  "@block stairs\n@option Up -> edge\n@end\n"
    ++ "@block edge\n@if not flag:game_over\nOh!\n@set flag:game_over\n@endif\nAh.\n@end\n"

/-- Standing in front of the tower. -/
def tower : Play := (fresh {} {}).perform (.load "tower" towerText)

/-- Climbing the tower, and trying to go on afterwards. -/
def towerActs : List Act :=
  [.choose (.index 5), .choose (.index 0), .run 10, .step, .loadFile "attic", .choose (.index 0)]

theorem gameOver_final_tower :
    let last := tower.performAll (.start "tower" none :: towerActs)
    let passages := tower.passages (.start "tower" none :: towerActs)
    last.status = .halted .gameOver ∧ passages.length = 4 ∧
      (∀ passage ∈ passages, passage.before.state.isGameOver = false) ∧
      ∃ passage earlier, passages = passage :: earlier ∧ passage.EndsGame ∧
        passage.after.IsStill last := by
  intro last passages
  have hfresh : tower.status = .halted .notStarted := rfl
  obtain ⟨hover, hlength⟩ : last.status = .halted .gameOver ∧ passages.length = 4 := by
    decide +kernel
  have hbegun : tower.status = .halted .gameOver → (tower.enterFile "tower" none).2 = none := by
    intro hstatus
    rw [hfresh] at hstatus
    cases hstatus
  have hacts : ∀ act ∈ towerActs, act.goesOn = true := by decide
  obtain ⟨hiff, hnone, hends⟩ := gameOver_final (.inl rfl) rfl hbegun hacts
  exact ⟨hover, hlength, hnone, hends (hiff.2 hover)⟩

end Play
end Gamebook
