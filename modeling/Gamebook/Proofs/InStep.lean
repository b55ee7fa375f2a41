/-
  Two plays side by side.

  The same acts are done to two plays that stand at the same place of the same story, show the same
  text and have the same cursors, but may differ in their states or in their libraries.  Whether
  they stay together depends on two things only:

  * the states: whoever reads a flag or a counter has to get the same answer, and writing the same
    has to keep it so (`State.IsCongruence`);
  * the libraries: where a destination is looked up, the look-ups have to find the same block, or
    fail alike (`Library.Resolving`), unless nothing is looked up at all (`Play.leaves`).

  So the plays walk in step (`Play.InStep`) whatever else may differ.  `execute_inStep` is the step
  lemma, with one case for each kind of node; `perform_inStep` carries it over to acts, and
  `performAll_inStep` to any number of them.

  Nothing is said of the logs, in which two plays in step may differ, nor of how the relations
  between the states and between the libraries come about.  They are variables of this file; the
  files that use it put in what they need, such as equality, or being loaded with more files.
-/
import Gamebook.Proofs.Acts

namespace Gamebook

/-! ## States that read alike

  A play reads its state in two ways and writes it in three, and the rules of `State.IsCongruence`
  name just these.  All else that looks at a state, conditions, menus and changes, is made of them.
-/

/-- States that are related read alike, and still do after the same write to both. -/
structure State.IsCongruence (alike : State → State → Prop) : Prop where
  flag : ∀ {s t}, alike s t → ∀ name, s.flag name = t.flag name
  counter : ∀ {s t}, alike s t → ∀ name, s.counter name = t.counter name
  setFlag : ∀ {s t}, alike s t → ∀ name value, alike (s.setFlag name value) (t.setFlag name value)
  setCounter : ∀ {s t}, alike s t → ∀ name value,
    alike (s.setCounter name value) (t.setCounter name value)
  setProgress : ∀ {s t}, alike s t → ∀ place, alike (s.setProgress place) (t.setProgress place)

/-- Being the same state is such a relation. -/
theorem State.isCongruence_eq : State.IsCongruence Eq where
  flag h name := by rw [h]
  counter h name := by rw [h]
  setFlag h name value := by rw [h]
  setCounter h name value := by rw [h]
  setProgress h place := by rw [h]

section States

variable {alike : State → State → Prop} (halike : State.IsCongruence alike) {s t : State}

include halike

/-- A condition sees nothing of a state but flags and counters. -/
theorem Condition.evaluate_congr (h : alike s t) (condition : Condition) :
    condition.evaluate s = condition.evaluate t := by
  induction condition with
  | flag name expected => rw [evaluate, evaluate, halike.flag h]
  | counter name comparison value => rw [evaluate, evaluate, halike.counter h]
  | not operand ih => rw [evaluate, evaluate, ih]
  | and left right ihleft ihright => rw [evaluate, evaluate, ihleft, ihright]
  | or left right ihleft ihright => rw [evaluate, evaluate, ihleft, ihright]
  | unknown form => rfl

/-- Menus offer the same choices in states that read alike, and write the same to the log. By
    induction on the choices, whose guards evaluate alike. -/
theorem Play.offered_congr (h : alike s t) (choices : List Choice) :
    Play.offered s choices = Play.offered t choices := by
  induction choices with
  | nil => rfl
  | cons choice rest ih =>
    rw [offered, offered, ih]
    cases choice.guard with
    | none => rfl
    | some guard =>
      dsimp only
      rw [Condition.evaluate_congr halike h guard]

/-- The same change can be done to both states or to none, and leaves them related. -/
theorem StateChange.apply_congr (h : alike s t) (change : StateChange) :
    (∃ fault, change.apply s = .error fault ∧ change.apply t = .error fault) ∨
      ∃ s' t', change.apply s = .ok s' ∧ change.apply t = .ok t' ∧ alike s' t' := by
  have hadjust : ∀ name amount,
      alike (s.adjustCounter name amount) (t.adjustCounter name amount) := by
    intro name amount
    rw [State.adjustCounter, State.adjustCounter, halike.counter h]
    exact halike.setCounter h name _
  rcases change with ⟨operation, target, amount⟩
  cases operation with
  | setFlag => exact .inr ⟨_, _, rfl, rfl, halike.setFlag h target true⟩
  | clearFlag => exact .inr ⟨_, _, rfl, rfl, halike.setFlag h target false⟩
  | increment => exact .inr ⟨_, _, rfl, rfl, hadjust target _⟩
  | decrement => exact .inr ⟨_, _, rfl, rfl, hadjust target _⟩
  | setCounter => exact .inr ⟨_, _, rfl, rfl, halike.setCounter h target _⟩
  | other name => exact .inl ⟨_, rfl, rfl⟩

end States

/-! ## Libraries that resolve alike

  Two look-ups agree on what comes out, a block, an error or a fault.  The libraries that they leave
  behind are compared by the relation, since a look-up may load a file. -/

/-- Two look-ups find the same, or fail alike, and leave libraries that are related. -/
inductive Outcome.Agree {ε α : Type} (shared : Library → Library → Prop) :
    Except Fault (Outcome ε α) → Except Fault (Outcome ε α) → Prop
  | fault (fault : Fault) : Agree shared (.error fault) (.error fault)
  | outcome {one other : Outcome ε α} (hresult : one.result = other.result)
      (hlibrary : shared one.library other.library) : Agree shared (.ok one) (.ok other)

/-- A look-up agrees with itself. -/
theorem Outcome.Agree.refl {ε α : Type} (result : Except Fault (Outcome ε α)) :
    Outcome.Agree Eq result result := by
  cases result with
  | error fault => exact .fault fault
  | ok outcome => exact .outcome rfl rfl

/-- What is made of the results of two look-ups that agree agrees as well. -/
theorem Outcome.Agree.map {ε η α β : Type} {shared : Library → Library → Prop}
    {one other : Except Fault (Outcome ε α)} (h : Outcome.Agree shared one other)
    (f : Except ε α → Except η β) :
    Outcome.Agree shared (one.map fun outcome => { outcome with result := f outcome.result })
      (other.map fun outcome => { outcome with result := f outcome.result }) := by
  cases h with
  | fault fault => exact .fault fault
  | outcome hresult hlibrary => exact .outcome (congrArg f hresult) hlibrary

/-- Libraries that are related look every destination up alike. -/
def Library.Resolving (shared : Library → Library → Prop) : Prop :=
  ∀ l m, shared l m → ∀ destination currentFile,
    Outcome.Agree shared (l.resolve destination currentFile) (m.resolve destination currentFile)

/-! ## Plays in step

  First come the small changes that a step is made of, each done to both plays.  What they need to
  be told is that the same is written to both; then each of them keeps the plays in step, and a step
  is put together from them in the order in which the program makes them. -/

namespace Play

/-- Two plays that show the same and stand at the same place, their states and their libraries being
    related. The logs may be different. -/
structure InStep (alike : State → State → Prop) (shared : Library → Library → Prop)
    (p q : Play) : Prop where
  state : alike p.state q.state
  library : shared p.library q.library
  status : p.status = q.status
  cursors : p.cursors = q.cursors
  place : p.place = q.place
  shown : p.shown = q.shown

/-- Both operations fail alike or not at all, and leave plays in step. -/
structure EndInStep {φ : Type} (alike : State → State → Prop) (shared : Library → Library → Prop)
    (x y : Play × Option φ) : Prop where
  failure : x.2 = y.2
  plays : InStep alike shared x.1 y.1

variable {alike : State → State → Prop} {shared : Library → Library → Prop} {p q : Play}

theorem InStep.endWith (h : InStep alike shared p q) {φ : Type} (failure : Option φ) :
    EndInStep alike shared (p, failure) (q, failure) := ⟨rfl, h⟩

/-- Nobody looks at the log. -/
theorem InStep.note (h : InStep alike shared p q) (record record' : Record) :
    InStep alike shared (p.note record) (q.note record') :=
  ⟨h.state, h.library, h.status, h.cursors, h.place, h.shown⟩

theorem InStep.halt (h : InStep alike shared p q) {one other : Halt} (hsame : one = other) :
    InStep alike shared (p.halt one) (q.halt other) :=
  ⟨h.state, h.library, congrArg Status.halted hsame, rfl, h.place, h.shown⟩

theorem InStep.withState (h : InStep alike shared p q) {s t : State} (hstates : alike s t) :
    InStep alike shared { p with state := s } { q with state := t } :=
  ⟨hstates, h.library, h.status, h.cursors, h.place, h.shown⟩

theorem InStep.withStatus (h : InStep alike shared p q) {one other : Status} (hsame : one = other) :
    InStep alike shared { p with status := one } { q with status := other } :=
  ⟨h.state, h.library, hsame, h.cursors, h.place, h.shown⟩

theorem InStep.withCursors (h : InStep alike shared p q) {one other : List Cursor}
    (hsame : one = other) :
    InStep alike shared { p with cursors := one } { q with cursors := other } :=
  ⟨h.state, h.library, h.status, hsame, h.place, h.shown⟩

theorem InStep.withLog (h : InStep alike shared p q) (log log' : List Record) :
    InStep alike shared { p with log } { q with log := log' } :=
  ⟨h.state, h.library, h.status, h.cursors, h.place, h.shown⟩

theorem InStep.display (h : InStep alike shared p q) (run : TextRun) :
    InStep alike shared (p.display run) (q.display run) := by
  refine ⟨h.state, h.library, h.status, h.cursors, h.place, ?_⟩
  rw [Play.display, Play.display, h.shown]

theorem InStep.absorb (h : InStep alike shared p q) {ε α : Type} {one other : Outcome ε α}
    (hlibrary : shared one.library other.library) :
    InStep alike shared (p.absorb one) (q.absorb other) :=
  ⟨h.state, hlibrary, h.status, h.cursors, h.place, h.shown⟩

/-- Or with the one they had, if the look-up has a fault. -/
theorem InStep.absorbResult (h : InStep alike shared p q) {ε α : Type}
    {one other : Except Fault (Outcome ε α)} (hagree : Outcome.Agree shared one other) :
    InStep alike shared (p.absorbResult one) (q.absorbResult other) := by
  cases hagree with
  | fault fault => exact h
  | outcome hresult hlibrary => exact h.absorb hlibrary

theorem InStep.blockIndex (h : InStep alike shared p q) : p.blockIndex = q.blockIndex := by
  rw [Play.blockIndex, Play.blockIndex, h.cursors]

theorem InStep.isRunning (h : InStep alike shared p q) :
    p.status.isRunning = q.status.isRunning := congrArg Status.isRunning h.status

/-- The status depends on the place and the cursors, which are the same. -/
theorem InStep.refresh (h : InStep alike shared p q) :
    InStep alike shared p.refresh q.refresh := by
  rw [Play.refresh, Play.refresh, h.isRunning]
  split
  next => exact h.withStatus (by rw [h.place, h.blockIndex])
  next => exact h

/-- An act that fails alike, and leaves plays in step, gets the same response from both. -/
theorem InStep.response {act : Act} (hfailure : p.failure act = q.failure act)
    (h : InStep alike shared (p.perform act) (q.perform act)) :
    p.response act = q.response act := by
  rw [Play.response, Play.response, hfailure, h.status, h.place, h.shown]

section Steps

variable (halike : State.IsCongruence alike)

include halike

theorem InStep.enter (h : InStep alike shared p q) (scene : Scene) :
    InStep alike shared (p.enter scene) (q.enter scene) :=
  ⟨halike.setProgress h.state scene.place, h.library, rfl, rfl, rfl, h.shown⟩

/-- Going to a destination keeps plays in step if it is looked up alike. -/
theorem transfer_inStep (h : InStep alike shared p q) {destination : Destination}
    (hresolve : Outcome.Agree shared (p.library.resolve destination p.place.file)
      (q.library.resolve destination p.place.file)) :
    EndInStep alike shared (p.transfer destination) (q.transfer destination) := by
  rw [transfer, transfer, ← h.place]
  generalize p.library.resolve destination p.place.file = one at hresolve
  generalize q.library.resolve destination p.place.file = other at hresolve
  cases hresolve with
  | fault fault => exact h.endWith _
  | @outcome one other hresult hlibrary =>
    have habsorb := h.absorb hlibrary
    dsimp only
    rw [← hresult]
    cases one.result with
    | ok scene => exact (habsorb.enter halike scene).endWith _
    | error error => exact ((habsorb.note _ _).halt rfl).endWith _

/-- The same choices are offered, or the menu founders on the same guard. -/
theorem offer_inStep (h : InStep alike shared p q) (choices : List Choice) :
    EndInStep alike shared (p.offer choices) (q.offer choices) := by
  rw [offer, offer, offered_congr halike h.state choices]
  obtain ⟨result, records⟩ := offered q.state choices
  have hlog := h.withLog (records ++ p.log) (records ++ q.log)
  cases result with
  | error fault => exact hlog.endWith _
  | ok visible =>
    cases visible with
    | nil => exact (hlog.note _ _).endWith _
    | cons first others => exact (hlog.withStatus (by rw [h.place])).endWith _

/-- **The step lemma**: a node keeps plays in step, unless it is a jump that the two libraries look
    up differently. -/
theorem execute_inStep (h : InStep alike shared p q) (node : Node)
    (hjump : ∀ destination, node = .jump destination →
      Outcome.Agree shared (p.library.resolve destination p.place.file)
        (q.library.resolve destination p.place.file)) :
    EndInStep alike shared (p.execute node) (q.execute node) := by
  cases node with
  | text run => exact (h.display run).endWith _
  | change change =>
    rw [execute, execute]
    rcases StateChange.apply_congr halike h.state change with
      ⟨fault, hone, hother⟩ | ⟨s, t, hone, hother, hstates⟩ <;> rw [hone, hother]
    · exact h.endWith _
    -- The game-over flag is read from the changed states, which are related as well.
    · have hover : s.isGameOver = t.isGameOver := halike.flag hstates State.gameOverFlag
      dsimp only
      rw [hover]
      split
      next => exact ((h.withState hstates).halt rfl).endWith _
      next => exact (h.withState hstates).endWith _
  | conditional condition thenNodes elseNodes =>
    rw [execute, execute, Condition.evaluate_congr halike h.state condition]
    cases condition.evaluate q.state with
    | error fault => exact h.endWith _
    | ok truth =>
      dsimp only
      cases (if truth then thenNodes else elseNodes) with
      | nil => exact h.endWith _
      | cons first rest => exact (h.withCursors (congrArg _ h.cursors)).endWith _
  | menu choices => exact offer_inStep halike h choices
  | jump destination => exact transfer_inStep halike h (hjump destination rfl)
  | unknown form => exact h.endWith _

end Steps

/-! ## Where acts lead

  Libraries that do not resolve alike do no harm until something is looked up.  So it is told apart
  which acts look something up, and which destination it is.  A run may go through many blocks and
  look up something in each of them, hence `runJumps`. -/

/-- Where the next step leads, if it leads to another block: the node that it takes is a jump. -/
def nextJump? (play : Play) : Option Destination :=
  if play.status.isRunning then
    match Cursor.takeNode play.cursors with
    | some (.jump destination, _) => some destination
    | _ => none
  else none

/-- One of so many steps is a jump. -/
def runJumps : Nat → Play → Bool
  | 0, _ => false
  | count + 1, play => play.nextJump?.isSome || runJumps count play.step.1

/-- The choice that a selection picks, if one is pending and the selection is accepted. -/
def chosen? (play : Play) (selection : Selection) : Option Choice :=
  match play.status with
  | .awaitingChoice _ choices => (selected choices selection).toOption
  | _ => none

/-- The destination that an act looks up first. -/
def destination? (play : Play) : Act → Option Destination
  | .start fileId block | .enter fileId block => some (.file fileId block)
  | .choose selection | .follow selection => (play.chosen? selection).map Choice.destination
  | .step => play.nextJump?
  | _ => none

/-- An act looks up a destination. -/
def leaves (play : Play) : Act → Bool
  | .run limit => runJumps limit.toNat play
  | act => (play.destination? act).isSome

theorem InStep.nextJump? (h : InStep alike shared p q) : p.nextJump? = q.nextJump? := by
  rw [Play.nextJump?, Play.nextJump?, h.status, h.cursors]

theorem InStep.chosen? (h : InStep alike shared p q) (selection : Selection) :
    p.chosen? selection = q.chosen? selection := by
  rw [Play.chosen?, Play.chosen?, h.status]

/-- What an act looks up is the same for plays in step. -/
theorem InStep.destination? (h : InStep alike shared p q) (act : Act) :
    p.destination? act = q.destination? act := by
  cases act with
  | choose selection => exact congrArg (Option.map Choice.destination) (h.chosen? selection)
  | follow selection => exact congrArg (Option.map Choice.destination) (h.chosen? selection)
  | step => exact h.nextJump?
  | _ => rfl

/-- A selection that picks nothing is refused, and changes nothing. -/
theorem follow_of_not_chosen {selection : Selection} (hnone : p.chosen? selection = none) :
    ∃ error, p.follow selection = (p, some (.refused error)) := by
  rw [chosen?] at hnone
  rw [follow]
  cases hstatus : p.status with
  | awaitingChoice place choices =>
    simp only [hstatus] at hnone ⊢
    cases hselected : selected choices selection with
    | error error => exact ⟨error, rfl⟩
    | ok choice =>
      rw [hselected] at hnone
      cases hnone
  | _ => exact ⟨_, rfl⟩

/-! ## Steps and runs

  What the two libraries have to find alike is asked for the one destination that a step can go to,
  for every look-up of a run, and for the block that an act enters. -/

section Runs

variable (halike : State.IsCongruence alike)

include halike

/-- A step keeps plays in step, if the jump that it makes, should it be one, is looked up alike. -/
theorem step_inStep (h : InStep alike shared p q)
    (hjump : ∀ destination, p.nextJump? = some destination →
      Outcome.Agree shared (p.library.resolve destination p.place.file)
        (q.library.resolve destination p.place.file)) :
    EndInStep alike shared p.step q.step := by
  rw [nextJump?] at hjump
  rw [step, step, ← h.isRunning, ← h.cursors]
  split
  next hrun =>
    rw [if_pos hrun] at hjump
    cases htake : Cursor.takeNode p.cursors with
    | none => exact (h.halt (by rw [h.place])).endWith _
    | some taken =>
      obtain ⟨node, cursors⟩ := taken
      have htaken : InStep alike shared { p with cursors } { q with cursors } := h.withCursors rfl
      have hnode : EndInStep alike shared (Play.execute { p with cursors } node)
          (Play.execute { q with cursors } node) := by
        refine execute_inStep halike htaken node fun destination hdestination => ?_
        -- The node is a jump, and then it is the next one.
        subst hdestination
        exact hjump destination (by rw [htake])
      dsimp only
      generalize Play.execute { p with cursors } node = x at hnode
      generalize Play.execute { q with cursors } node = y at hnode
      obtain ⟨one, failure⟩ := x
      obtain ⟨other, failure'⟩ := y
      obtain ⟨hfailure, hplays⟩ := hnode
      cases hfailure
      cases failure with
      | none => exact hplays.refresh.endWith _
      | some fault => exact hplays.endWith _
  next => exact h.endWith _

/-- A run keeps plays in step if every look-up does, or if it looks nothing up. -/
theorem runSteps_inStep (limit : Int) (count : Nat) (h : InStep alike shared p q)
    (hstays : Library.Resolving shared ∨ runJumps count p = false) :
    EndInStep alike shared (runSteps limit count p) (runSteps limit count q) := by
  induction count generalizing p q with
  | zero =>
    rw [runSteps, runSteps, ← h.isRunning]
    split
    next => exact ((h.note _ _).halt (by rw [h.place])).endWith _
    next => exact h.endWith _
  | succ count ih =>
    rw [runSteps, runSteps, ← h.isRunning]
    split
    next =>
      have hstep : EndInStep alike shared p.step q.step := by
        refine step_inStep halike h fun destination hdestination => ?_
        rcases hstays with hresolving | hnone
        · exact hresolving _ _ h.library destination _
        · rw [runJumps, hdestination] at hnone
          cases hnone
      -- No jump among all the steps means none among those after the first.
      have hrest : Library.Resolving shared ∨ runJumps count p.step.1 = false := by
        refine hstays.imp_right fun hnone => ?_
        rw [runJumps, Bool.or_eq_false_iff] at hnone
        exact hnone.2
      generalize p.step = x at hstep hrest
      generalize q.step = y at hstep
      obtain ⟨one, failure⟩ := x
      obtain ⟨other, failure'⟩ := y
      obtain ⟨hfailure, hplays⟩ := hstep
      cases hfailure
      cases failure with
      | none => exact ih hplays hrest
      | some fault => exact hplays.endWith _
    next => exact h.endWith _

/-- Running on after an operation, if it has not failed. -/
theorem andRun_inStep {x y : Play × Option Failure} (h : EndInStep alike shared x y)
    (hstays : Library.Resolving shared ∨ x.2 ≠ none) :
    EndInStep alike shared (andRun x) (andRun y) := by
  obtain ⟨one, failure⟩ := x
  obtain ⟨other, failure'⟩ := y
  obtain ⟨hfailure, hplays⟩ := h
  cases hfailure
  cases failure with
  | none =>
    have hresolving : Library.Resolving shared := hstays.resolve_right fun hsome => hsome rfl
    have hrun := runSteps_inStep halike defaultStepLimit defaultStepLimit.toNat hplays
      (.inl hresolving)
    exact ⟨congrArg (Option.map Failure.fault) hrun.failure, hrun.plays⟩
  | some failure => exact hplays.endWith _

/-- Starting with a file keeps plays in step if it is found alike. -/
theorem enterFile_inStep (h : InStep alike shared p q) {fileId : String} {block : Option String}
    (hresolve : Outcome.Agree shared (p.library.resolve (.file fileId block) fileId)
      (q.library.resolve (.file fileId block) fileId)) :
    EndInStep alike shared (p.enterFile fileId block) (q.enterFile fileId block) := by
  rw [enterFile, enterFile]
  generalize p.library.resolve (.file fileId block) fileId = one at hresolve
  generalize q.library.resolve (.file fileId block) fileId = other at hresolve
  cases hresolve with
  | fault fault => exact h.endWith _
  | @outcome one other hresult hlibrary =>
    have habsorb := h.absorb hlibrary
    dsimp only
    rw [← hresult]
    cases one.result with
    | ok scene => exact (habsorb.enter halike scene).endWith _
    | error error => exact habsorb.endWith _

/-- Choosing keeps plays in step if what the choice leads to is found alike. The menus are the same,
    so the same selections are accepted. -/
theorem follow_inStep (h : InStep alike shared p q) {selection : Selection}
    (hresolve : ∀ choice, p.chosen? selection = some choice →
      Outcome.Agree shared (p.library.resolve choice.destination p.place.file)
        (q.library.resolve choice.destination p.place.file)) :
    EndInStep alike shared (p.follow selection) (q.follow selection) := by
  rw [chosen?] at hresolve
  rw [follow, follow, ← h.status]
  cases hstatus : p.status with
  | awaitingChoice place choices =>
    simp only [hstatus] at hresolve ⊢
    cases hselected : selected choices selection with
    | error error => exact h.endWith _
    | ok choice =>
      dsimp only
      have hnote := h.note (.chose choice.label choice.destination)
        (.chose choice.label choice.destination)
      have hgoing := hnote.withStatus
        (show Status.running p.place p.blockIndex = .running q.place q.blockIndex by
          rw [h.place, h.blockIndex])
      have hchosen : (selected choices selection).toOption = some choice := by
        rw [hselected]
        rfl
      have htransfer := transfer_inStep halike hgoing (hresolve choice hchosen)
      exact ⟨congrArg (Option.map Failure.fault) htransfer.failure, htransfer.plays⟩
  | _ => exact h.endWith _

/-! ## Acts

  An act that runs on may look up any number of destinations, so it needs libraries that resolve
  alike, or none of its steps may jump.  The other acts look up one destination at most. -/

/-- An act after which a play does not run on keeps plays in step, if what it looks up is found
    alike. -/
theorem perform_inStep_of_agree (h : InStep alike shared p q) {act : Act}
    (hact : act.isOfPlay = true) (hbrief : act.runsOn = false)
    (hresolve : ∀ destination, p.destination? act = some destination →
      Outcome.Agree shared (p.library.resolve destination p.place.file)
        (q.library.resolve destination p.place.file)) :
    p.failure act = q.failure act ∧ InStep alike shared (p.perform act) (q.perform act) := by
  cases act with
  | enter fileId block =>
    -- A destination with a file is looked up without regard to the current file.
    have henter := enterFile_inStep halike h (hresolve (.file fileId block) rfl)
    exact ⟨henter.failure, henter.plays⟩
  | follow selection =>
    have hfollow := follow_inStep halike h fun choice hchosen =>
      hresolve choice.destination (congrArg (Option.map Choice.destination) hchosen)
    exact ⟨hfollow.failure, hfollow.plays⟩
  | step =>
    have hstep := step_inStep halike h hresolve
    exact ⟨congrArg (Option.map Failure.fault) hstep.failure, hstep.plays⟩
  | setFlag name value => exact ⟨rfl, h.withState (halike.setFlag h.state name value)⟩
  | setCounter name value => exact ⟨rfl, h.withState (halike.setCounter h.state name value)⟩
  | start _ _ => cases hbrief
  | choose _ => cases hbrief
  | run _ => cases hbrief
  | _ => cases hact

/-- **An act keeps plays in step** if every look-up does, or if it looks nothing up. -/
theorem perform_inStep (h : InStep alike shared p q) {act : Act} (hact : act.isOfPlay = true)
    (hstays : Library.Resolving shared ∨ p.leaves act = false) :
    p.failure act = q.failure act ∧ InStep alike shared (p.perform act) (q.perform act) := by
  have hresolve : Library.Resolving shared ∨ p.destination? act = none →
      ∀ destination, p.destination? act = some destination →
        Outcome.Agree shared (p.library.resolve destination p.place.file)
          (q.library.resolve destination p.place.file) := by
    rintro (hresolving | hnone) destination hsome
    · exact hresolving _ _ h.library destination _
    · rw [hnone] at hsome
      cases hsome
  have hnone : (p.destination? act).isSome = false → p.destination? act = none := by
    intro hsome
    rwa [Option.isSome_eq_false_iff, Option.isNone_iff_eq_none] at hsome
  cases act with
  | start fileId block =>
    have hresolving : Library.Resolving shared := hstays.resolve_right nofun
    have henter := enterFile_inStep halike h (hresolving _ _ h.library (.file fileId block) fileId)
    have hrun := andRun_inStep halike henter (.inl hresolving)
    exact ⟨hrun.failure, hrun.plays⟩
  | choose selection =>
    have hfollow := follow_inStep halike h fun choice hchosen =>
      hresolve (hstays.imp_right hnone) choice.destination
        (congrArg (Option.map Choice.destination) hchosen)
    have hrun := andRun_inStep halike hfollow (hstays.imp_right fun hstay hgoes => by
      have hrefused := Option.map_eq_none_iff.1 (hnone hstay)
      -- A selection that picks nothing is refused, and then the play does not run on.
      obtain ⟨error, hfollow⟩ := follow_of_not_chosen hrefused
      rw [hfollow] at hgoes
      cases hgoes)
    exact ⟨hrun.failure, hrun.plays⟩
  | run limit =>
    have hrun := runSteps_inStep halike limit limit.toNat h hstays
    exact ⟨congrArg (Option.map Failure.fault) hrun.failure, hrun.plays⟩
  | _ => exact perform_inStep_of_agree halike h hact rfl (hresolve (hstays.imp_right hnone))

/-- **Any number of acts** get the same responses from plays in step, and keep them so, if every
    look-up does; what is done to the libraries in between has to do so by itself. -/
theorem performAll_inStep (hresolving : Library.Resolving shared) {acts : List Act}
    (hbeside : ∀ act ∈ acts, act.isOfPlay = false → ∀ p q, InStep alike shared p q →
      InStep alike shared (p.perform act) (q.perform act))
    (h : InStep alike shared p q) :
    p.responses acts = q.responses acts ∧
      InStep alike shared (p.performAll acts) (q.performAll acts) := by
  induction acts generalizing p q with
  | nil => exact ⟨rfl, h⟩
  | cons act acts ih =>
    have hothers : ∀ other ∈ acts, other.isOfPlay = false → ∀ p q, InStep alike shared p q →
        InStep alike shared (p.perform other) (q.perform other) := by
      intro other hother
      exact hbeside other (List.mem_cons_of_mem _ hother)
    rw [responses, responses]
    cases hact : act.isOfPlay with
    -- Acts beside the play, such as loading, get no response.
    | false =>
      have hnext := hbeside act List.mem_cons_self hact p q h
      exact ih hothers hnext
    | true =>
      obtain ⟨hfailure, hnext⟩ := perform_inStep halike h hact (.inl hresolving)
      obtain ⟨hresponses, hlast⟩ := ih hothers hnext
      refine ⟨?_, hlast⟩
      rw [if_pos rfl, if_pos rfl, InStep.response hfailure hnext, hresponses]

end Runs

end Play
end Gamebook
