/-
  What acts that fail, or lead nowhere, leave behind.

  A play can fail to be begun, because the block to begin with is not found, and a choice can be
  refused.  Both leave the play as it was (`Play.IsStill`).  The destination of a jump, or of a
  choice that is accepted, may not be found either: this is no failure, but halts the play, and
  leaves everything else as it was before the jump or the choice.

  * `Play.Admits`: the choices that are accepted; all others are refused (`failure_choose_iff`).
  * `Play.Strands`: what a destination that is not found does to a play.
  * `strands_of_passage`: a run that passes such a jump ends with it, because the play has halted
    (`perform_of_halting`).
  * `failedActs_harmless`: all of it, of every play whatsoever.  Where the play comes from does not
    matter, so nothing is asked of its library, its cursors or its state.

  A fault is neither of these.  It is what would end the program with an exception, and plays of
  stories that were read never have one; here nothing is assumed of the play, so failures that are
  faults are left aside (`hnofault`).
-/
import Gamebook.Proofs.InStep
import Gamebook.Proofs.Passages

namespace Gamebook.Play

variable {play : Play}

/-! ## Choices that are accepted

  A selection can be anything that a caller hands in.  It picks a choice only as a whole number that
  counts one of those that are pending; texts, truth values and lists pick none, whatever they say.
-/

/-- The selection picks this choice: one is pending, and the selection is a whole number that counts
    the choice among those that are pending, the first being number 0. -/
def Admits (play : Play) (selection : Selection) (choice : Choice) : Prop :=
  ∃ place choices index, play.status = .awaitingChoice place choices ∧ selection = .index index ∧
    0 ≤ index ∧ choices[index.toNat]? = some choice

/-- Only an index selects, and only one that the menu has. -/
theorem selected_eq_ok_iff {choices : List Choice} {selection : Selection} {choice : Choice} :
    selected choices selection = .ok choice ↔
      ∃ index, selection = .index index ∧ 0 ≤ index ∧ choices[index.toNat]? = some choice := by
  constructor
  · intro h
    cases selection with
    | index index =>
      rw [selected] at h
      split at h
      next => cases h
      next hsign =>
        split at h
        next found hfound =>
          cases h
          exact ⟨index, rfl, Int.not_lt.1 hsign, hfound⟩
        next => cases h
    | _ => cases h
  · rintro ⟨index, rfl, hsign, hfound⟩
    rw [selected, if_neg (Int.not_lt.2 hsign), hfound]

/-- What is chosen is what the selection picks, and nothing is chosen where none is pending. -/
theorem chosen?_eq_some_iff {selection : Selection} {choice : Choice} :
    play.chosen? selection = some choice ↔ play.Admits selection choice := by
  rw [chosen?]
  constructor
  · intro h
    split at h
    next place choices hstatus =>
      cases hselected : selected choices selection with
      | error error =>
        rw [hselected] at h
        cases h
      | ok found =>
        rw [hselected] at h
        cases h
        obtain ⟨index, hindex, hsign, hfound⟩ := selected_eq_ok_iff.1 hselected
        exact ⟨place, choices, index, hstatus, hindex, hsign, hfound⟩
    next => cases h
  · rintro ⟨place, choices, index, hstatus, hindex, hsign, hfound⟩
    have hselected := selected_eq_ok_iff.2 ⟨index, hindex, hsign, hfound⟩
    simp only [hstatus, hselected]
    rfl

/-- The play in which a choice has been accepted: it differs from the one before in its status and
    its log alone. -/
def going (play : Play) (choice : Choice) : Play :=
  { play.note (.chose choice.label choice.destination) with
    status := .running play.place play.blockIndex }

/-- A choice that is accepted is gone for like a jump. -/
theorem follow_of_admits {selection : Selection} {choice : Choice}
    (h : play.Admits selection choice) :
    play.follow selection =
      (((play.going choice).transfer choice.destination).1,
        ((play.going choice).transfer choice.destination).2.map .fault) := by
  obtain ⟨place, choices, index, hstatus, hindex, hsign, hfound⟩ := h
  have hselected := selected_eq_ok_iff.2 ⟨index, hindex, hsign, hfound⟩
  rw [follow]
  simp only [hstatus, hselected]
  rfl

/-! ## Failures

  A failure can come from the first part of an act, from starting or choosing, or from the run
  behind it.  A run fails with a fault only.  So where there is no fault, the first part has failed
  and the run has not been begun (`andRun_of_failure`); what remains is to see what the first part
  leaves. -/

/-- Running on fails only with a fault; any other failure came before, and nothing is run. -/
theorem andRun_of_failure {result : Play × Option Failure} {failure : Failure}
    (hfailure : (andRun result).2 = some failure) (hnofault : ∀ fault, failure ≠ .fault fault) :
    andRun result = result ∧ result.2 = some failure := by
  obtain ⟨play, failed⟩ := result
  cases failed with
  | none =>
    rw [andRun] at hfailure
    obtain ⟨fault, -, hfault⟩ := Option.map_eq_some_iff.1 hfailure
    exact absurd hfault.symm (hnofault fault)
  | some failed => exact ⟨rfl, hfailure⟩

/-- If a play cannot be begun, nothing happens to it. -/
theorem isStill_enterFile {fileId : String} {block : Option String} {failure : Failure}
    (hfailure : (play.enterFile fileId block).2 = some failure) :
    play.IsStill (play.enterFile fileId block).1 := by
  rw [enterFile] at hfailure ⊢
  cases hresolve : play.library.resolve (.file fileId block) fileId with
  | error fault => exact .refl play
  | ok outcome =>
    rw [hresolve] at hfailure
    dsimp only at hfailure ⊢
    cases hresult : outcome.result with
    | ok scene =>
      rw [hresult] at hfailure
      cases hfailure
    -- The look-up may have loaded a story before it found that the block is missing.
    | error error => exact isStill_absorb (Library.placesEntered_resolve hresolve)

/-- A selection is refused and changes nothing, or it picks a choice, which is gone for. -/
theorem follow_cases (play : Play) (selection : Selection) :
    ((¬ ∃ choice, play.Admits selection choice) ∧
        ∃ error, play.follow selection = (play, some (.refused error))) ∨
      ∃ choice, play.Admits selection choice ∧ play.follow selection =
        (((play.going choice).transfer choice.destination).1,
          ((play.going choice).transfer choice.destination).2.map .fault) := by
  cases hchosen : play.chosen? selection with
  | none =>
    refine .inl ⟨?_, follow_of_not_chosen hchosen⟩
    rintro ⟨choice, hadmits⟩
    rw [chosen?_eq_some_iff.2 hadmits] at hchosen
    cases hchosen
  | some choice =>
    have hadmits := chosen?_eq_some_iff.1 hchosen
    exact .inr ⟨choice, hadmits, follow_of_admits hadmits⟩

/-- Making a choice fails with a fault, or because the selection picks none. -/
theorem follow_of_failure {selection : Selection} {failure : Failure}
    (hfailure : (play.follow selection).2 = some failure)
    (hnofault : ∀ fault, failure ≠ .fault fault) :
    play.follow selection = (play, some failure) ∧ ¬ ∃ choice, play.Admits selection choice := by
  rcases play.follow_cases selection with ⟨hnone, error, hfollow⟩ | ⟨choice, -, hfollow⟩
  · rw [hfollow] at hfailure
    cases hfailure
    exact ⟨hfollow, hnone⟩
  · rw [hfollow] at hfailure
    obtain ⟨fault, -, hfault⟩ := Option.map_eq_some_iff.1 hfailure
    exact absurd hfault.symm (hnofault fault)

/-- Making a choice and running on fails without a fault just as making it does. -/
theorem choose_of_failure {selection : Selection} {failure : Failure}
    (hfailure : (play.choose selection).2 = some failure)
    (hnofault : ∀ fault, failure ≠ .fault fault) :
    play.choose selection = (play, some failure) ∧ ¬ ∃ choice, play.Admits selection choice := by
  obtain ⟨hstays, hbefore⟩ := andRun_of_failure hfailure hnofault
  obtain ⟨hfollow, hnone⟩ := follow_of_failure hbefore hnofault
  have hchoose : play.choose selection = play.follow selection := hstays
  exact ⟨hchoose.trans hfollow, hnone⟩

/-- **An act that fails for want of a block, or is refused, leaves the play as it was.** -/
theorem isStill_of_failure {act : Act} {failure : Failure}
    (hfailure : play.failure act = some failure) (hnofault : ∀ fault, failure ≠ .fault fault) :
    play.IsStill (play.perform act) := by
  cases act with
  | start fileId block =>
    obtain ⟨hstays, hbefore⟩ := andRun_of_failure hfailure hnofault
    rw [perform, Play.start, hstays]
    exact isStill_enterFile hbefore
  | enter fileId block => exact isStill_enterFile hfailure
  | choose selection =>
    rw [perform, (choose_of_failure hfailure hnofault).1]
    exact .refl play
  | follow selection =>
    rw [perform, (follow_of_failure hfailure hnofault).1]
    exact .refl play
  | step =>
    obtain ⟨fault, -, hfault⟩ := Option.map_eq_some_iff.1 hfailure
    exact absurd hfault.symm (hnofault fault)
  | run limit =>
    obtain ⟨fault, -, hfault⟩ := Option.map_eq_some_iff.1 hfailure
    exact absurd hfault.symm (hnofault fault)
  | _ => cases hfailure

/-- A choice that is refused leaves nothing behind, not even in the log. -/
theorem perform_of_refused {selection : Selection} {error : InputError}
    (hfailure : play.failure (.choose selection) = some (.refused error)) :
    play.perform (.choose selection) = play := by
  have hnofault : ∀ fault, Failure.refused error ≠ .fault fault := by
    intro fault hfault
    cases hfault
  rw [perform, (choose_of_failure hfailure hnofault).1]

/-- A choice is refused just when the selection picks none. -/
theorem failure_choose_iff (play : Play) (selection : Selection) :
    (∃ error, play.failure (.choose selection) = some (.refused error)) ↔
      ¬ ∃ choice, play.Admits selection choice := by
  constructor
  · rintro ⟨error, hfailure⟩
    exact (choose_of_failure hfailure nofun).2
  · intro hnone
    rcases play.follow_cases selection with ⟨-, error, hfollow⟩ | ⟨choice, hadmits, -⟩
    · refine ⟨error, ?_⟩
      rw [failure, Play.choose, hfollow]
      rfl
    · exact absurd ⟨choice, hadmits⟩ hnone

/-! ## Destinations that lead nowhere

  This is the other way of not getting on, and no failure: the caller is told nothing, but the play
  has halted and says why.  It is the same for a jump and for a choice, because both go to their
  destination in the same way, and the play as it is before that is where it is left. -/

/-- The play has halted because a destination is not found. The halt tells the destination and why
    it is not found; nothing else has happened, and only the cursors are gone. -/
structure Strands (before after : Play) (destination : Destination) (error : ResolutionError) :
    Prop where
  status : ∃ halt, after.status = .halted halt ∧ halt.reason = "unresolved destination" ∧
    halt.error? = some (destination, error) ∧ halt.details = some error.message
  cursors : after.cursors = []
  state : after.state = before.state
  place : after.place = before.place
  shown : after.shown = before.shown
  visits : before.Tells after []

/-- Going to a destination that is not found strands the play right where it is. -/
theorem strands_transfer {destination : Destination} {outcome : Outcome ResolutionError Scene}
    {error : ResolutionError}
    (hresolve : play.library.resolve destination play.place.file = .ok outcome)
    (herror : outcome.result = .error error) :
    (play.transfer destination).2 = none ∧
      play.Strands (play.transfer destination).1 destination error := by
  have htells : play.Tells (play.absorb outcome) [] :=
    .absorb (Library.placesEntered_resolve hresolve)
  rw [transfer_of_error hresolve herror]
  exact ⟨rfl, ⟨_, rfl, rfl, rfl, rfl⟩, rfl, rfl, rfl, rfl, htells⟩

/-- A jump that leads nowhere is the last node that an act executes, and does not make it fail. -/
theorem strands_of_passage {act : Act} {passage : Passage}
    (hpassage : passage ∈ play.performPassages act) {destination : Destination}
    (hnode : passage.node = .jump destination) {outcome : Outcome ResolutionError Scene}
    (hresolve : passage.before.library.resolve destination passage.before.place.file = .ok outcome)
    {error : ResolutionError} (herror : outcome.result = .error error) :
    play.failure act = none ∧ passage.before.Strands (play.perform act) destination error := by
  have hafter : passage.after = (passage.before.transfer destination).1 := by
    rw [Passage.after, hnode]
    rfl
  obtain ⟨-, hstrands⟩ := strands_transfer hresolve herror
  rw [← hafter] at hstrands
  obtain ⟨halt, hhalt, -⟩ := hstrands.status
  -- The play has halted at the jump, so the act has ended there.
  obtain ⟨hsame, hnone⟩ := perform_of_halting hhalt hpassage
  rw [hsame]
  exact ⟨hnone, hstrands⟩

/-- A choice that leads nowhere strands the play as it was before the choice, whether or not the
    play would have run on. -/
theorem strands_of_choice {selection : Selection} {choice : Choice}
    (hadmits : play.Admits selection choice) {outcome : Outcome ResolutionError Scene}
    (hresolve : play.library.resolve choice.destination play.place.file = .ok outcome)
    {error : ResolutionError} (herror : outcome.result = .error error) {act : Act}
    (hact : act = .choose selection ∨ act = .follow selection) :
    play.failure act = none ∧ play.Strands (play.perform act) choice.destination error := by
  obtain ⟨hnone, hgoing⟩ := @strands_transfer (play.going choice) _ _ _ hresolve herror
  have hfollow := follow_of_admits hadmits
  rw [hnone] at hfollow
  generalize ((play.going choice).transfer choice.destination).1 = stranded at hgoing hfollow
  -- Neither the place and the state nor what was shown changes when the choice is accepted.
  have hstrands : play.Strands stranded choice.destination error :=
    ⟨hgoing.status, hgoing.cursors, hgoing.state, hgoing.place, hgoing.shown, hgoing.visits⟩
  obtain ⟨halt, hhalt, -⟩ := hgoing.status
  have hrun : ¬ stranded.status.isRunning = true := by
    rw [hhalt]
    exact Bool.false_ne_true
  rcases hact with rfl | rfl
  · have hchoose : play.choose selection = (stranded, none) := by
      rw [Play.choose, hfollow, Option.map_none, andRun, run, runSteps_of_not_running hrun]
      rfl
    rw [failure, perform, hchoose]
    exact ⟨rfl, hstrands⟩
  · rw [failure, perform, hfollow]
    exact ⟨rfl, hstrands⟩

/-- **Acts that fail are harmless, and so are destinations that lead nowhere.** In every play: an
    act that fails because no block is found leaves it still; a choice that is refused leaves it the
    same altogether, and is refused just when it picks none of the choices that are pending; and a
    jump that leads nowhere, or a choice that is accepted and does, is no failure, but strands the
    play as it was before. -/
theorem failedActs_harmless (play : Play) :
    (∀ act error, play.failure act = some (.unresolved error) → play.IsStill (play.perform act)) ∧
      (∀ selection error, play.failure (.choose selection) = some (.refused error) →
        play.perform (.choose selection) = play) ∧
      (∀ selection, (∃ error, play.failure (.choose selection) = some (.refused error)) ↔
        ¬ ∃ choice, play.Admits selection choice) ∧
      (∀ act, ∀ passage ∈ play.performPassages act, ∀ destination outcome error,
        passage.node = .jump destination →
        passage.before.library.resolve destination passage.before.place.file = .ok outcome →
        outcome.result = .error error →
        play.failure act = none ∧
          passage.before.Strands (play.perform act) destination error) ∧
      ∀ selection choice outcome error, play.Admits selection choice →
        play.library.resolve choice.destination play.place.file = .ok outcome →
        outcome.result = .error error →
        play.failure (.choose selection) = none ∧
          play.Strands (play.perform (.choose selection)) choice.destination error := by
  refine ⟨?_, ?_, failure_choose_iff play, ?_, ?_⟩
  · intro act error hfailure
    exact isStill_of_failure hfailure nofun
  · intro selection error hfailure
    exact perform_of_refused hfailure
  · intro act passage hpassage destination outcome error hnode hresolve herror
    exact strands_of_passage hpassage hnode hresolve herror
  · intro selection choice outcome error hadmits hresolve herror
    exact strands_of_choice hadmits hresolve herror (.inl rfl)

/-- A house whose cellar and whose attic are missing. -/
def house : Play :=
  { library := ({} : Library).register "house"
      { fileId := "house"
        blocks := [
          { name := "hall"
            nodes := [.menu [⟨"Down", .block "cellar", none, []⟩,
              ⟨"Up", .block "stairs", none, []⟩]] },
          { name := "stairs", nodes := [.jump (.file "attic" (some "roof"))] }]
        entry := some "hall" } }

/-- Standing in the hall of the house. -/
def hall : Play := house.perform (.start "house" none)

theorem failedActs_harmless_hall :
    hall.IsStill (hall.perform (.start "garden" none)) ∧
      hall.perform (.choose (.truth true)) = hall ∧
      hall.Strands (hall.perform (.choose (.index 0))) (.block "cellar")
        (.noBlock "house" "cellar") ∧
      ∃ passage ∈ hall.performPassages (.choose (.index 1)),
        passage.before.place = ⟨"house", "stairs"⟩ ∧
          passage.before.Strands (hall.perform (.choose (.index 1)))
            (.file "attic" (some "roof")) (.unknownFile "attic") := by
  obtain ⟨hstart, hrefused, -, hjump, hchoice⟩ := failedActs_harmless hall
  refine ⟨hstart _ (.unknownFile "garden") rfl, hrefused _ (.notAnIndex "True") rfl, ?_, ?_⟩
  · exact (hchoice _ ⟨"Down", .block "cellar", none, []⟩ _ _
      ⟨_, _, 0, rfl, rfl, Int.le_refl 0, rfl⟩ rfl rfl).2
  · exact ⟨_, List.mem_singleton.2 rfl, rfl,
      (hjump _ _ (List.mem_singleton.2 rfl) _ _ _ rfl rfl rfl).2⟩

end Gamebook.Play
