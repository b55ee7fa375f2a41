/-
  A run is so many steps, and no more.

  A run takes one step after the other while the play is running, and halts it when the steps that
  it may take are used up.  What comes of that is said by single steps alone:

  * `Play.stepped`: the play after so many steps, whether it is still running or not.
  * `Play.runCounting`: the run once more, with its steps counted; counting changes nothing else
    (`fst_runCounting`).
  * `runCounting_of_stopping`: a play that stops within the limit is left where it stops, after just
    the steps that lead there.
  * `runCounting_of_going`: a play that does not is halted where the last step that is allowed has
    left it.

  One of the two is always the case, and `run_stepwise` says what this means for every limit, if the
  steps have no fault.  The steps of a play of stories that were read never have one
  (`stepped_sound`), so it stops or is halted whatever the limit is (`run_of_sound`).
-/
import Mathlib.Data.Nat.Find
import Gamebook.Proofs.Passages
import Gamebook.Proofs.SoundPlay

namespace Gamebook.Play

/-! ## Single steps

  A play may be stepped at any time; if it is not running, nothing happens.  So the play after so
  many steps is there for every number. -/

/-- The play after so many steps. -/
def stepped : (count : Nat) → Play → Play
  | 0, play => play
  | count + 1, play => stepped count play.step.1

/-- The play halted because its steps are used up. -/
def haltAt (limit : Int) (play : Play) : Play :=
  { play with
    cursors := []
    status := .halted (.stepLimit play.place)
    log := .halted (Halt.stepLimit play.place).reason (Halt.stepLimit play.place).details ::
      .stepLimitReached limit play.place :: play.log }

/-- A run that counts its steps. -/
def runCounting (limit : Int) : (count : Nat) → Play → (Play × Option Fault) × Nat
  | 0, play => (if play.status.isRunning then (play.haltAt limit, none) else (play, none), 0)
  | count + 1, play =>
    if play.status.isRunning then
      match play.step with
      | (next, none) =>
        let (result, steps) := runCounting limit count next
        (result, steps + 1)
      | (next, some fault) => ((next, some fault), 1)
    else ((play, none), 0)

variable {play : Play}

theorem step_of_not_running (hstop : play.status.isRunning = false) : play.step = (play, none) := by
  rw [step, hstop]
  rfl

/-- A play that is not running stays as it is, however many steps it is told to take. -/
theorem stepped_of_not_running (hstop : play.status.isRunning = false) (count : Nat) :
    play.stepped count = play := by
  induction count with
  | zero => rfl
  | succ count ih => rw [stepped, step_of_not_running hstop, ih]

theorem stepped_add (count more : Nat) :
    play.stepped (count + more) = (play.stepped count).stepped more := by
  induction count generalizing play with
  | zero => rw [Nat.zero_add, stepped]
  | succ count ih => rw [Nat.succ_add, stepped, ih, stepped]

/-- After it has stopped running, a play is still where it stopped. -/
theorem stepped_of_le {count later : Nat} (hstop : (play.stepped count).status.isRunning = false)
    (hle : count ≤ later) : play.stepped later = play.stepped count := by
  obtain ⟨more, rfl⟩ := Nat.exists_eq_add_of_le hle
  rw [stepped_add, stepped_of_not_running hstop]

/-- The steps of a play of stories that were read never have a fault. -/
theorem stepped_sound (h : play.IsSound) (count : Nat) :
    (play.stepped count).step.2 = none ∧ (play.stepped count).IsSound := by
  induction count generalizing play with
  | zero => exact ⟨(step_sound h).1, h⟩
  | succ count ih => exact ih (step_sound h).2

/-! ## Counting

  A run hands back the play and a fault, if there is one.  To say how many steps it took, it is
  written once more with a count, along the same recursion. -/

/-- Counting changes nothing. -/
theorem fst_runCounting (limit : Int) (count : Nat) (play : Play) :
    (runCounting limit count play).1 = runSteps limit count play := by
  induction count generalizing play with
  | zero => rfl
  | succ count ih =>
    rw [runCounting, runSteps]
    split
    next =>
      cases hstep : play.step with
      | mk next fault =>
        cases fault with
        | none => exact ih next
        | some fault => rfl
    next => rfl

/-- A step without a fault is counted, and the run goes on from where it leads. -/
theorem runCounting_of_step {limit : Int} {count : Nat} (hrun : play.status.isRunning = true)
    (hnone : play.step.2 = none) :
    runCounting limit (count + 1) play =
      ((runCounting limit count play.step.1).1, (runCounting limit count play.step.1).2 + 1) := by
  rw [runCounting, if_pos hrun]
  cases hstep : play.step with
  | mk next fault =>
    rw [hstep] at hnone
    cases hnone
    rfl

/-- **A run ends where the play stops**, if it stops within the limit. -/
theorem runCounting_of_stopping {limit : Int} {steps count : Nat} (hle : steps ≤ count)
    (hgoing : ∀ earlier < steps, (play.stepped earlier).status.isRunning = true)
    (hnone : ∀ earlier < steps, (play.stepped earlier).step.2 = none)
    (hstop : (play.stepped steps).status.isRunning = false) :
    runCounting limit count play = ((play.stepped steps, none), steps) := by
  induction steps generalizing play count with
  -- No step is needed: the play has stopped already, whatever the limit is.
  | zero =>
    have hstill : ¬ play.status.isRunning = true := Bool.eq_false_iff.1 hstop
    cases count with
    | zero =>
      rw [runCounting, if_neg hstill]
      rfl
    | succ count =>
      rw [runCounting, if_neg hstill]
      rfl
  | succ steps ih =>
    obtain ⟨count, rfl⟩ : ∃ rest, count = rest + 1 := ⟨count - 1, by omega⟩
    have hrun : play.status.isRunning = true := hgoing 0 (by omega)
    have hrest : runCounting limit count play.step.1 =
        ((play.step.1.stepped steps, none), steps) :=
      ih (by omega) (fun earlier hlt => hgoing (earlier + 1) (by omega))
        (fun earlier hlt => hnone (earlier + 1) (by omega)) hstop
    rw [runCounting_of_step hrun (hnone 0 (by omega)), hrest]
    rfl

/-- **A run halts a play that does not stop**, where the last step that it may take has left it. -/
theorem runCounting_of_going {limit : Int} {count : Nat}
    (hgoing : ∀ earlier ≤ count, (play.stepped earlier).status.isRunning = true)
    (hnone : ∀ earlier < count, (play.stepped earlier).step.2 = none) :
    runCounting limit count play = (((play.stepped count).haltAt limit, none), count) := by
  induction count generalizing play with
  | zero =>
    have hrun : play.status.isRunning = true := hgoing 0 (Nat.le_refl 0)
    rw [runCounting, if_pos hrun]
    rfl
  | succ count ih =>
    have hrun : play.status.isRunning = true := hgoing 0 (by omega)
    have hrest : runCounting limit count play.step.1 =
        (((play.step.1.stepped count).haltAt limit, none), count) :=
      ih (fun earlier hle => hgoing (earlier + 1) (by omega))
        (fun earlier hlt => hnone (earlier + 1) (by omega))
    rw [runCounting_of_step hrun (hnone 0 (by omega)), hrest]
    rfl

/-- Within so many steps a play stops for the first time, or it goes on all along. -/
theorem stops_or_goes (play : Play) (count : Nat) :
    (∃ steps ≤ count, (∀ earlier < steps, (play.stepped earlier).status.isRunning = true) ∧
      (play.stepped steps).status.isRunning = false) ∨
    ∀ earlier ≤ count, (play.stepped earlier).status.isRunning = true := by
  by_cases hstops : ∃ steps, (play.stepped steps).status.isRunning = false
  -- The first of all stops, if there is any.
  · have hfirst := Nat.find_spec hstops
    rcases Nat.lt_or_ge count (Nat.find hstops) with hlater | hle
    · refine .inr fun earlier hearlier => ?_
      exact eq_true_of_ne_false (Nat.find_min hstops (by omega))
    · refine .inl ⟨Nat.find hstops, hle, fun earlier hlt => ?_, hfirst⟩
      exact eq_true_of_ne_false (Nat.find_min hstops hlt)
  · exact .inr fun earlier _ => eq_true_of_ne_false fun hstop => hstops ⟨earlier, hstop⟩

/-! ## Runs

  Whether the play stops in time decides which of the two counting lemmas is used. -/

/-- A run whose limit is no smaller ends where the play has stopped. -/
theorem run_of_stopped {limit : Int} {count : Nat} (hle : count ≤ limit.toNat)
    (hnone : ∀ earlier < count, (play.stepped earlier).step.2 = none)
    (hstop : (play.stepped count).status.isRunning = false) :
    play.run limit = (play.stepped count, none) := by
  rcases stops_or_goes play count with ⟨steps, hsteps, hgoing, hfirst⟩ | hgoing
  · -- From its first stop on the play stands still, so it does not matter which stop is meant.
    rw [stepped_of_le hfirst hsteps, run, ← fst_runCounting,
      runCounting_of_stopping (Nat.le_trans hsteps hle) hgoing
        (fun earlier hlt => hnone earlier (by omega)) hfirst]
  · rw [hgoing count (Nat.le_refl count)] at hstop
    cases hstop

/-- **A play of stories that were read can run without more being asked of it**: none of its steps
    has a fault, so the run ends at the first stop that the limit lets it reach, or is halted by the
    limit. -/
theorem run_of_sound (h : play.IsSound) (limit : Int) :
    (∃ count ≤ limit.toNat, (play.stepped count).status.isRunning = false ∧
      play.run limit = (play.stepped count, none)) ∨
    (∀ count ≤ limit.toNat, (play.stepped count).status.isRunning = true) ∧
      play.run limit = ((play.stepped limit.toNat).haltAt limit, none) := by
  have hnone : ∀ count, (play.stepped count).step.2 = none := fun count => (stepped_sound h count).1
  rcases stops_or_goes play limit.toNat with ⟨count, hle, -, hstop⟩ | hgoing
  · exact .inl ⟨count, hle, hstop, run_of_stopped hle (fun earlier _ => hnone earlier) hstop⟩
  · refine .inr ⟨hgoing, ?_⟩
    rw [run, ← fst_runCounting, runCounting_of_going hgoing fun earlier _ => hnone earlier]

/-- **A run is bounded stepping.** Whatever limit is set, and none is below zero, a run whose steps
    have no fault takes no more steps than that, and afterwards the play is no longer running. If
    so many single steps, or fewer, bring it to a stop, then this run and every run with a greater
    limit ends in just the play that they lead to. If they do not, then the run takes all of its
    steps and halts the play that they lead to; this forgets the cursors and is logged, and all else
    stays as the steps have left it. -/
theorem run_stepwise {limit : Int}
    (hnone : ∀ count < limit.toNat, (play.stepped count).step.2 = none) :
    (runCounting limit limit.toNat play).1 = play.run limit ∧
      (runCounting limit limit.toNat play).2 ≤ limit.toNat ∧
      (play.run limit).2 = none ∧ (play.run limit).1.status.isRunning = false ∧
      (∀ count ≤ limit.toNat, (play.stepped count).status.isRunning = false →
        ∀ greater, limit ≤ greater → play.run greater = (play.stepped count, none)) ∧
      ((∀ count ≤ limit.toNat, (play.stepped count).status.isRunning = true) →
        (runCounting limit limit.toNat play).2 = limit.toNat ∧
        play.run limit = ((play.stepped limit.toNat).haltAt limit, none) ∧
        ∃ halt, (play.run limit).1.status = .halted halt ∧ halt.reason = "step limit reached" ∧
          (play.run limit).1.cursors = [] ∧
          (play.run limit).1.shown = (play.stepped limit.toNat).shown ∧
          (play.run limit).1.state = (play.stepped limit.toNat).state) := by
  have hsame : (runCounting limit limit.toNat play).1 = play.run limit := fst_runCounting _ _ _
  refine ⟨hsame, ?_⟩
  -- A greater limit allows the same steps, and more are not needed.
  have hstopped : ∀ count ≤ limit.toNat, (play.stepped count).status.isRunning = false →
      ∀ greater, limit ≤ greater → play.run greater = (play.stepped count, none) := by
    intro count hle hstop greater hgreater
    have hlimit : limit.toNat ≤ greater.toNat := Int.toNat_le_toNat hgreater
    exact run_of_stopped (Nat.le_trans hle hlimit) (fun earlier hlt => hnone earlier (by omega))
      hstop
  rcases stops_or_goes play limit.toNat with ⟨steps, hle, hgoing, hstop⟩ | hgoing
  · have hcounted : runCounting limit limit.toNat play = ((play.stepped steps, none), steps) :=
      runCounting_of_stopping hle hgoing (fun earlier hlt => hnone earlier (by omega)) hstop
    rw [← hsame, hcounted]
    refine ⟨hle, rfl, hstop, hstopped, fun hall => ?_⟩
    rw [hall steps hle] at hstop
    cases hstop
  · have hcounted : runCounting limit limit.toNat play =
        (((play.stepped limit.toNat).haltAt limit, none), limit.toNat) :=
      runCounting_of_going hgoing hnone
    rw [← hsame, hcounted]
    exact ⟨Nat.le_refl _, rfl, rfl, hstopped,
      fun _ => ⟨rfl, rfl, .stepLimit _, rfl, rfl, rfl, rfl, rfl⟩⟩

/-- A track on which three laps are run. -/
def trackText : String :=
  "@block lap\n@incr counter:laps\n@if counter:laps < 3\n@jump lap\n@endif\n@end\n"

/-- Standing at the start. -/
def track : Play :=
  ((fresh {} {}).perform (.load "track" trackText)).perform (.enter "track" none)

/-- The ninth step finds that nothing is left of the block: with eight steps the laps are done, but
    the run is halted nevertheless. -/
theorem run_stepwise_track :
    (track.run 8).1.status = .halted (.stepLimit ⟨"track", "lap"⟩) ∧
      (track.run 8).1.state.counter "laps" = 3 ∧ (runCounting 8 8 track).2 = 8 ∧
      (track.run 9).1.status = .halted (.blockExhausted ⟨"track", "lap"⟩) ∧
      ∀ greater, 9 ≤ greater → track.run greater = (track.stepped 9, none) := by
  have hnone : ∀ count < 9, (track.stepped count).step.2 = none := by decide +kernel
  have hgoing : ∀ count ≤ 8, (track.stepped count).status.isRunning = true := by decide +kernel
  have hstop : (track.stepped 9).status = .halted (.blockExhausted ⟨"track", "lap"⟩) := by
    decide +kernel
  obtain ⟨-, -, -, -, -, hhalted⟩ := @run_stepwise track 8
    fun count hlt => hnone count (Nat.lt_succ_of_lt hlt)
  obtain ⟨-, -, -, -, hstopped, -⟩ := @run_stepwise track 9 hnone
  obtain ⟨hsteps, height, -⟩ := hhalted hgoing
  have hnine := hstopped 9 (Nat.le_refl 9) (by rw [hstop]; rfl)
  refine ⟨?_, ?_, hsteps, ?_, hnine⟩
  · rw [height]
    decide +kernel
  · rw [height]
    decide +kernel
  · rw [hnine 9 (Int.le_refl 9)]
    exact hstop

end Gamebook.Play
