/-
  Replying with a label.

  A reader who types the label of an option, as the menu shows it, means that option.  Two options
  can read the same once they are cleaned, and then the first of them is meant.  Labels are tried
  before numbers, keywords and names of blocks, so nothing else in the menu can come in between;
  but the words that leave a story are tried before all of these, so an option that reads like one
  of them cannot be had by its label.

  * `Reply.matchOption_label`: what a label picks, whatever else the menu holds.
  * `Session.answer_label`: what replying with a label does to a session.
  * `Session.answer_label_quit`: an option that can be chosen by its number, but not by its label.
-/
import Gamebook.Proofs.FailedActs
import Gamebook.Proofs.SessionEnd

namespace Gamebook

/-! ## What a label picks

  Replies and labels are cleaned before they are compared, so the label as it is shown need not be
  typed exactly.  Cleaning can make two labels alike.  The first option of them is the one that is
  meant, and the others cannot be had by their labels, but only by their numbers or their keywords.
-/

namespace Reply

/-- The choice stands at this index, and is the first whose label reads like this one. -/
structure FirstLike (choices : List Choice) (label : String) (index : Nat) (choice : Choice) :
    Prop where
  found : choices[index]? = some choice
  alike : sanitize choice.label = sanitize label
  first : ∀ (earlier : Nat) (other : Choice), earlier < index →
    choices[earlier]? = some other → sanitize other.label ≠ sanitize label

variable {choices : List Choice} {shown : Choice}

/-- An option of the menu is like itself, so there is a first one like it, and the search finds it.
    -/
theorem exists_firstLike (hmem : shown ∈ choices) :
    ∃ index choice, FirstLike choices shown.label index choice ∧
      (choices.findIdx? fun other => sanitize other.label == sanitize shown.label) =
        some index := by
  cases hfind : choices.findIdx? fun other => sanitize other.label == sanitize shown.label with
  | none =>
    have hunlike := List.findIdx?_eq_none_iff.1 hfind shown hmem
    rw [beq_self_eq_true] at hunlike
    cases hunlike
  | some index =>
    obtain ⟨hbound, halike, hfirst⟩ := List.findIdx?_eq_some_iff_getElem.1 hfind
    refine ⟨index, choices[index], ⟨List.getElem?_eq_getElem hbound, beq_iff_eq.1 halike, ?_⟩, rfl⟩
    intro earlier other hearlier hother
    obtain ⟨-, rfl⟩ := List.getElem?_eq_some_iff.1 hother
    exact fun hsame => hfirst earlier hearlier (beq_iff_eq.2 hsame)

/-- **A label picks the first option that reads like it**, whatever the numbers, the keywords and
    the destinations of the menu are. -/
theorem matchOption_label (hmem : shown ∈ choices) (hsome : sanitize shown.label ≠ "") :
    ∃ index choice, FirstLike choices shown.label index choice ∧
      matchOption shown.label choices = .ok (some index) := by
  obtain ⟨index, choice, hfirst, hfind⟩ := exists_firstLike hmem
  have hempty : ¬ (sanitize shown.label).isEmpty = true := fun h => hsome (String.isEmpty_iff.1 h)
  refine ⟨index, choice, hfirst, ?_⟩
  simp only [matchOption, if_neg hempty, hfind]

end Reply

/-! ## Plays that have run

  A session asks again when the play waits for a choice, and ends when it has halted.  A play that
  is still running would be neither; after a run without a fault it is not. -/

namespace Play

/-- A run that has no fault goes on until the play waits or halts. -/
theorem not_running_of_runSteps {limit : Int} {count : Nat} {play : Play}
    (hnone : (runSteps limit count play).2 = none) :
    ¬ (runSteps limit count play).1.status.isRunning = true := by
  induction count generalizing play with
  | zero =>
    rw [runSteps]
    split
    next => exact Bool.false_ne_true
    next hrun => exact hrun
  | succ count ih =>
    by_cases hrun : play.status.isRunning = true
    · cases hfault : play.step.2 with
      | none =>
        rw [runSteps_of_step hrun hfault] at hnone ⊢
        exact ih hnone
      | some fault =>
        rw [runSteps_of_fault hrun hfault] at hnone
        cases hnone
    · rw [runSteps_of_not_running hrun]
      exact hrun

/-- Nor does a play run any longer after a start or a choice that has not failed. -/
theorem not_running_of_andRun {result : Play × Option Failure} (hnone : (andRun result).2 = none) :
    ¬ (andRun result).1.status.isRunning = true := by
  obtain ⟨going, failure⟩ := result
  cases failure with
  | none =>
    have hran : (runSteps defaultStepLimit defaultStepLimit.toNat going).2 = none :=
      Option.map_eq_none_iff.1 hnone
    exact not_running_of_runSteps hran
  | some failure => cases hnone

theorem not_running_of_choose {play : Play} {selection : Selection}
    (hnone : (play.choose selection).2 = none) :
    ¬ (play.choose selection).1.status.isRunning = true := not_running_of_andRun hnone

/-- A choice that is accepted never fails in a sound play. -/
theorem IsSound.choose_of_admits {play : Play} (h : play.IsSound) {selection : Selection}
    {choice : Choice} (hadmits : play.Admits selection choice) :
    (play.choose selection).2 = none := by
  cases hfailure : (play.choose selection).2 with
  | none => rfl
  | some failure =>
    obtain ⟨error, rfl⟩ := (isSafe_of_isSound h).choose selection failure hfailure
    exact absurd ⟨choice, hadmits⟩ ((failure_choose_iff play selection).1 ⟨error, hfailure⟩)

end Play

/-! ## What a session makes of it

  The words that leave a story come first.  They are looked for in the reply before the menu is, so
  an option that is called like one of them is out of reach of its label.  This is meant to be so:
  the reader must be able to leave whatever an author has put in the menu. -/

namespace Session

variable {session : Session}

/-- The session after the option at an index of the menu is chosen. -/
def pick (session : Session) (index : Nat) : Session :=
  (session.settle (session.play.choose (.index index)).1).goOn
    (session.play.choose (.index index)).2

/-- Options are pending while the session asks and the play waits for a choice. -/
theorem exists_status_of_pending {choices : List Choice}
    (hpending : session.pending? = some choices) :
    session.phase = .asking ∧ ∃ place, session.play.status = .awaitingChoice place choices := by
  rw [pending?] at hpending
  split at hpending
  next place others hphase hstatus =>
    cases hpending
    exact ⟨hphase, place, hstatus⟩
  next => cases hpending

/-- After an operation that has not failed a session asks again, unless the play has halted. -/
theorem phase_proceed (hrun : ¬ session.play.status.isRunning = true) :
    session.proceed.phase = .asking ∨ ∃ halt, session.play.status = .halted halt := by
  cases hstatus : session.play.status with
  | running place index =>
    rw [hstatus] at hrun
    exact absurd rfl hrun
  | awaitingChoice place choices =>
    rw [proceed, hstatus]
    exact .inl rfl
  | halted halt => exact .inr ⟨halt, rfl⟩

/-- **Replying with a label chooses the first option that reads like it**, unless it reads like a
    word that leaves the story. The menu may hold any labels, keywords and destinations. In a sound
    play the choice does not fail, and the session asks again unless the play has halted. A label
    that reads like a word that leaves ends the session as the word does. -/
theorem answer_label {choices : List Choice} (hpending : session.pending? = some choices)
    {shown : Choice} (hmem : shown ∈ choices) (hsome : Reply.sanitize shown.label ≠ "") :
    (Reply.isExit shown.label = false → ∃ index choice,
      Reply.FirstLike choices shown.label index choice ∧
        session.play.Admits (.index index) choice ∧
        session.answer (some shown.label) = session.pick index ∧
        (session.play.IsSound → (session.play.choose (.index index)).2 = none ∧
          ((session.pick index).phase = .asking ∨
            ∃ halt, (session.play.choose (.index index)).1.status = .halted halt))) ∧
      (Reply.isExit shown.label = true → session.answer (some shown.label) = session.finish) := by
  obtain ⟨hphase, place, hstatus⟩ := exists_status_of_pending hpending
  have htake : session.answer (some shown.label) = session.takeReply choices shown.label := by
    rw [answer, hphase, hstatus]
  rw [htake, takeReply]
  refine ⟨fun hstay => ?_, fun hexit => if_pos hexit⟩
  obtain ⟨index, choice, hfirst, hmatch⟩ := Reply.matchOption_label hmem hsome
  have hadmits : session.play.Admits (.index index) choice :=
    ⟨place, choices, index, hstatus, rfl, Int.natCast_nonneg index, hfirst.found⟩
  rw [hstay, if_neg Bool.false_ne_true, hmatch]
  refine ⟨index, choice, hfirst, hadmits, rfl, fun hsound => ?_⟩
  have hnone := hsound.choose_of_admits hadmits
  refine ⟨hnone, ?_⟩
  rw [pick, hnone]
  exact phase_proceed (Play.not_running_of_choose hnone)

/-- The options of the crossing. -/
def crossingChoices : List Choice :=
  [⟨"Go on", .block "next", none, []⟩, ⟨"Stay", .block "start", none, []⟩]

/-- At the crossing, `Stay` chooses an option and the session asks again. -/
theorem answer_label_stay :
    Reply.isExit "Stay" = false ∧ ∃ index choice,
      Reply.FirstLike crossingChoices "Stay" index choice ∧
        (begin crossingSetup).answer (some "Stay") = (begin crossingSetup).pick index ∧
        (((begin crossingSetup).pick index).phase = .asking ∨
          ∃ halt, ((begin crossingSetup).play.choose (.index index)).1.status = .halted halt) := by
  have hpending : (begin crossingSetup).pending? = some crossingChoices := by decide +kernel
  have hstay : Reply.isExit "Stay" = false := by decide +kernel
  obtain ⟨hgoes, -⟩ := answer_label hpending
    (List.mem_cons_of_mem _ List.mem_cons_self :
      (⟨"Stay", .block "start", none, []⟩ : Choice) ∈ crossingChoices) (by decide +kernel)
  obtain ⟨index, choice, hfirst, -, hpick, hasks⟩ := hgoes hstay
  have hsound := (begin_sound isUsable_crossingSetup).play
  exact ⟨hstay, index, choice, hfirst, hpick, (hasks hsound).2⟩

/-- A room that one may leave or stay in. -/
def roomSetup : Setup where
  arguments := { stories := some (.text "stories"), file := .text "one.txt" }
  disk :=
    { contents := [(["stories", "one.txt"], .text ("@block start\nWhat now?\n"
        ++ "@option Quit -> next\n@option Stay -> start\n@end\n"
        ++ "@block next\nIt is cold outside.\n@option Go in -> start\n@end\n"))] }

/-- The options of the room. -/
def roomChoices : List Choice :=
  [⟨"Quit", .block "next", none, []⟩, ⟨"Stay", .block "start", none, []⟩]

/-- **An option that is called like a word that leaves cannot be had by its label.** The session
    ends, and choosing the option would not have ended it. -/
theorem answer_label_quit :
    (begin roomSetup).pending? = some roomChoices ∧
      (⟨"Quit", .block "next", none, []⟩ : Choice) ∈ roomChoices ∧ Reply.sanitize "Quit" ≠ "" ∧
      ((begin roomSetup).answer (some "Quit")).phase = .ended 0 ∧
      ¬ ∃ index choice, Reply.FirstLike roomChoices "Quit" index choice ∧
        (begin roomSetup).answer (some "Quit") = (begin roomSetup).pick index := by
  obtain ⟨hpending, hended, hasks⟩ : (begin roomSetup).pending? = some roomChoices ∧
      ((begin roomSetup).answer (some "Quit")).phase = .ended 0 ∧
      ((begin roomSetup).pick 0).phase = .asking := by
    decide +kernel
  refine ⟨hpending, List.mem_cons_self, by decide +kernel, hended, ?_⟩
  rintro ⟨index, choice, hfirst, hpick⟩
  cases index with
  | zero =>
    rw [hpick, hasks] at hended
    cases hended
  | succ index => exact hfirst.first 0 _ index.succ_pos rfl rfl

end Session
end Gamebook
