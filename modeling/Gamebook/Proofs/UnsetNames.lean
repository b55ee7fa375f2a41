/-
  A name that was never written is as good as one that was written with its default.

  A state keeps the flags and counters that something has written.  A story cannot tell a flag that
  was put down from one that nothing has touched, nor a counter at zero from one that is not there:
  conditions, guards, changes and the end of the game all read flags and counters through their
  defaults.  `State.Indistinct` says when two states read alike, and `responses_indistinct` that two
  plays begun with such states answer alike, for as long as they are played.

  That reading alike is kept by everything that a play does to its state is all that has to be shown
  here (`isCongruence_indistinct`).  The rest is the theorem on plays in step, with one library for
  both.
-/
import Gamebook.Proofs.InStep

namespace Gamebook

/-- The states give every flag and every counter the same value, and stand at the same place. The
    one may keep an entry where the other keeps none. -/
structure State.Indistinct (s t : State) : Prop where
  flag : ∀ name, s.flag name = t.flag name
  counter : ∀ name, s.counter name = t.counter name
  progress : s.progress = t.progress

/-- What is written to both states cannot be told apart either. -/
theorem State.isCongruence_indistinct : State.IsCongruence State.Indistinct where
  flag h := h.flag
  counter h := h.counter
  setFlag {s t} h name value := by
    refine ⟨fun other => ?_, h.counter, h.progress⟩
    rw [flag_setFlag, flag_setFlag, h.flag]
  setCounter {s t} h name value := by
    refine ⟨h.flag, fun other => ?_, h.progress⟩
    rw [counter_setCounter, counter_setCounter, h.counter]
  setProgress h place := ⟨h.flag, h.counter, rfl⟩

/-- The same library looks everything up as itself. -/
theorem Library.resolving_eq : Library.Resolving Eq := by
  intro l m hsame destination currentFile
  rw [hsame]
  exact .refl _

namespace Play

variable {alike : State → State → Prop} {p q : Play}

/-- What is done to one library is done to the other. -/
theorem perform_library (h : InStep alike Eq p q) {act : Act} (hact : act.isOfPlay = false) :
    InStep alike Eq (p.perform act) (q.perform act) := by
  cases act with
  | load fileId text => exact h.absorb (by rw [h.library])
  | loadFile fileId =>
    show InStep alike Eq (p.absorbResult (p.library.loadFile fileId)) _
    rw [h.library]
    exact h.absorbResult (.refl _)
  | get fileId =>
    show InStep alike Eq (p.absorbResult (p.library.get fileId)) _
    rw [h.library]
    exact h.absorbResult (.refl _)
  | writeFile location content =>
    exact ⟨h.state, congrArg (Library.writeFile · location content) h.library, h.status, h.cursors,
      h.place, h.shown⟩
  | _ => cases hact

/-- **A story cannot tell an unset name from one with its default.** Play the same library twice, in
    the same way, with states that read alike: all responses are the same, with the same failures,
    offers and texts, and in the end the plays differ in their states alone, which read alike
    still. -/
theorem responses_indistinct (library : Library) {s t : State} (h : s.Indistinct t)
    (acts : List Act) :
    (fresh library s).responses acts = (fresh library t).responses acts ∧
      InStep State.Indistinct Eq ((fresh library s).performAll acts)
        ((fresh library t).performAll acts) := by
  have hfresh : InStep State.Indistinct Eq (fresh library s) (fresh library t) :=
    ⟨h, rfl, rfl, rfl, rfl, rfl⟩
  exact performAll_inStep State.isCongruence_indistinct Library.resolving_eq
    (fun _ _ hact _ _ hplays => perform_library hplays hact) hfresh

/-- A toll that is asked of whoever has no pass. -/
def tollText : String :=
  "@block toll\n@if not flag:pass and counter:coins <= 0\n@incr counter:debt\n@endif\n" ++
    "@option Walk on -> road if counter:debt > 0\n@option Ride -> road if flag:pass\n@end\n" ++
    "@block road\n@end\n"

/-- Nothing is written here. -/
def blankState : State := {}

/-- Here the pass and the coins are written, and are not there. -/
def plainState : State := (blankState.setFlag "pass" false).setCounter "coins" 0

/-- Paying at the toll, and walking on. -/
def tollActs : List Act := [.load "way" tollText, .start "way" none, .choose (.index 0)]

theorem responses_indistinct_toll :
    blankState.Indistinct plainState ∧ blankState.describe ≠ plainState.describe ∧
      (fresh {} blankState).responses tollActs = (fresh {} plainState).responses tollActs ∧
      InStep State.Indistinct Eq ((fresh {} blankState).performAll tollActs)
        ((fresh {} plainState).performAll tollActs) ∧
      ((fresh {} plainState).responses tollActs).map Response.status =
        [.awaitingChoice ⟨"way", "toll"⟩ [⟨"Walk on", .block "road",
            some (.counter "debt" .greater 0), []⟩],
          .halted (.blockExhausted ⟨"way", "road"⟩)] := by
  have hstates : blankState.Indistinct plainState := by
    refine ⟨fun name => ?_, fun name => ?_, rfl⟩
    · show _ = (blankState.setFlag "pass" false).flag name
      rw [State.flag_setFlag]
      split
      next hname => rw [hname]; rfl
      next => rfl
    · rw [plainState, State.counter_setCounter]
      split
      next hname => rw [hname]; rfl
      next => rfl
  obtain ⟨hresponses, hplays⟩ := responses_indistinct {} hstates tollActs
  exact ⟨hstates, by decide +kernel, hresponses, hplays, by decide +kernel⟩

end Play
end Gamebook
