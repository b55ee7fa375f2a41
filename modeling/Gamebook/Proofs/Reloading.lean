/-
  Loading stories does not disturb the block that is being played.

  Once a block has been entered, its nodes are held by the cursors, and the choices of a menu by the
  status.  The library is asked again only where the play goes to another block.  So whatever is
  loaded meanwhile, even under the id of the story that is being played, shows at the next
  destination and not before:

  * `InStep.leaves`: whether an act looks up a destination does not depend on the library.
  * `perform_library_beside`: what is done to the library of one of two plays leaves them in step.
  * `performAll_inStep_filter`: so, as long as nothing is looked up, a play with loads in between is
    in step with the play that has none.
  * `responses_undisturbed`: what the loads can do is to let the next destination be found
    elsewhere, or not at all.

  The two plays are compared by the relation of plays in step, in which the libraries may be any
  two.  That is enough for every act that looks up no destination, and `stays` says that there are
  only such acts.
-/
import Gamebook.Proofs.InStep

namespace Gamebook

/-- Nothing is asked of the two libraries. -/
def Library.AnyTwo (_ _ : Library) : Prop := True

namespace Play

variable {alike : State → State → Prop} {shared : Library → Library → Prop} {p q : Play}

/-- None of the acts looks up a destination. -/
def stays (play : Play) : List Act → Bool
  | [] => true
  | act :: acts => !play.leaves act && stays (play.perform act) acts

/-- Up to the first jump, and so whether there is one, plays in step run alike. -/
theorem InStep.runJumps (halike : State.IsCongruence alike) (h : InStep alike shared p q)
    (count : Nat) : runJumps count p = runJumps count q := by
  induction count generalizing p q with
  | zero => rfl
  | succ count ih =>
    rw [Play.runJumps, Play.runJumps, ← h.nextJump?]
    cases hjump : p.nextJump? with
    | some destination => rfl
    | none =>
      have hstep : EndInStep alike shared p.step q.step := by
        refine step_inStep halike h fun destination hsome => ?_
        rw [hjump] at hsome
        cases hsome
      exact ih hstep.plays

/-- Plays in step look up a destination at the same acts. -/
theorem InStep.leaves (halike : State.IsCongruence alike) (h : InStep alike shared p q)
    (act : Act) : p.leaves act = q.leaves act := by
  have hlooked := congrArg Option.isSome (h.destination? act)
  cases act with
  | run limit => exact h.runJumps halike limit.toNat
  | _ => exact hlooked

/-- Only the library and the log of a play change where a story is loaded. -/
theorem perform_library_beside (h : InStep alike Library.AnyTwo p q) {act : Act}
    (hact : act.isOfPlay = false) : InStep alike Library.AnyTwo (p.perform act) q := by
  -- A play with another library and another log is in step with what it was in step with before.
  have hbeside : ∀ library log, InStep alike Library.AnyTwo { p with library, log } q :=
    fun _ _ => ⟨h.state, trivial, h.status, h.cursors, h.place, h.shown⟩
  have hresult : ∀ {ε α : Type} (result : Except Fault (Outcome ε α)),
      InStep alike Library.AnyTwo (p.absorbResult result) q := by
    intro ε α result
    cases result with
    | error fault => exact h
    | ok outcome => exact hbeside _ _
  cases act with
  | load fileId text => exact hbeside _ _
  | loadFile fileId => exact hresult _
  | get fileId => exact hresult _
  | writeFile location content => exact hbeside _ _
  | _ => cases hact

/-- **The run lemma**: taking away what is done to the library changes no response as long as
    nothing is looked up. -/
theorem performAll_inStep_filter (halike : State.IsCongruence alike)
    (h : InStep alike Library.AnyTwo p q) {acts : List Act}
    (hstays : q.stays (acts.filter Act.isOfPlay) = true) :
    p.responses acts = q.responses (acts.filter Act.isOfPlay) ∧
      InStep alike Library.AnyTwo (p.performAll acts)
        (q.performAll (acts.filter Act.isOfPlay)) := by
  induction acts generalizing p q with
  | nil => exact ⟨rfl, h⟩
  | cons act acts ih =>
    cases hact : act.isOfPlay with
    -- An act on the library: it is taken away on the other side.
    | false =>
      rw [List.filter_cons_of_neg (by rw [hact]; decide)] at hstays ⊢
      rw [responses, hact]
      exact ih (perform_library_beside h hact) hstays
    -- An act on the play: it is done to both, and looks nothing up.
    | true =>
      rw [List.filter_cons_of_pos hact] at hstays ⊢
      rw [stays, Bool.and_eq_true, Bool.not_eq_true', ← h.leaves halike] at hstays
      obtain ⟨hstay, hstays⟩ := hstays
      obtain ⟨hfailure, hnext⟩ := perform_inStep halike h hact (.inr hstay)
      obtain ⟨hresponses, hlast⟩ := ih hnext hstays
      refine ⟨?_, hlast⟩
      rw [responses, responses, if_pos hact, if_pos hact, InStep.response hfailure hnext,
        hresponses]

/-- **Loading does not disturb the block being played.** Let stories be loaded, with or without
    success, and files be written, while things are done to a play that do not take it to another
    block. All responses are those of the play to which only these things are done: the same
    failures, offers and texts. Both plays end with the same state, and go to the same destination
    next; what comes of that depends on the loads only if it is looked up differently. -/
theorem responses_undisturbed (play : Play) {acts : List Act}
    (hstays : play.stays (acts.filter Act.isOfPlay) = true) :
    let disturbed := play.performAll acts
    let alone := play.performAll (acts.filter Act.isOfPlay)
    play.responses acts = play.responses (acts.filter Act.isOfPlay) ∧
      InStep Eq Library.AnyTwo disturbed alone ∧
      ∀ act, act.isOfPlay = true → act.runsOn = false →
        disturbed.destination? act = alone.destination? act ∧
        ((∀ destination, alone.destination? act = some destination →
            Outcome.Agree Library.AnyTwo
              (disturbed.library.resolve destination alone.place.file)
              (alone.library.resolve destination alone.place.file)) →
          disturbed.response act = alone.response act ∧
            InStep Eq Library.AnyTwo (disturbed.perform act) (alone.perform act)) := by
  intro disturbed alone
  have hself : InStep Eq Library.AnyTwo play play := ⟨rfl, trivial, rfl, rfl, rfl, rfl⟩
  obtain ⟨hresponses, hplays⟩ := performAll_inStep_filter State.isCongruence_eq hself hstays
  refine ⟨hresponses, hplays, fun act hact hbrief => ⟨hplays.destination? act, ?_⟩⟩
  intro hresolve
  rw [← hplays.destination? act, ← hplays.place] at hresolve
  obtain ⟨hfailure, hnext⟩ := perform_inStep_of_agree State.isCongruence_eq hplays hact hbrief
    hresolve
  exact ⟨InStep.response hfailure hnext, hnext⟩

/-- A hut with a door. -/
def hutText : String :=
  "@block hut\nIt is dark.\n@set flag:lamp\n@option Out -> yard if flag:lamp\n@end\n" ++
    "@block yard\nSun.\n@end\n"

/-- The hut again, with nothing outside. -/
def lonelyHutText : String := "@block hut\n@option Stay -> hut\n@end\n"

/-- Having entered the hut. -/
def inHut : Play := (fresh {} {}).performAll [.load "hut" hutText, .enter "hut" none]

/-- Looking about the hut while it is loaded again, once with success and twice without. -/
def hutActs : List Act :=
  [.step, .load "hut" lonelyHutText, .step, .loadFile "hut", .step, .load "hut" "@end\n",
    .choose (.index 7)]

theorem responses_undisturbed_hut :
    inHut.stays (hutActs.filter Act.isOfPlay) = true ∧
      inHut.responses hutActs = inHut.responses (hutActs.filter Act.isOfPlay) ∧
      (inHut.responses hutActs).map (·.status.isRunning) = [true, true, false, false] ∧
      (let disturbed := inHut.performAll hutActs
       let alone := inHut.performAll (hutActs.filter Act.isOfPlay)
       disturbed.destination? (.follow (.index 0)) = some (.block "yard") ∧
         (disturbed.response (.follow (.index 0))).status ≠
           (alone.response (.follow (.index 0))).status) := by
  have hstays : inHut.stays (hutActs.filter Act.isOfPlay) = true := by decide +kernel
  obtain ⟨hresponses, -, -⟩ := responses_undisturbed inHut hstays
  exact ⟨hstays, hresponses, by decide +kernel, by decide +kernel, by decide +kernel⟩

end Play
end Gamebook
