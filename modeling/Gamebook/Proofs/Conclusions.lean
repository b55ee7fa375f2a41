/-
  What a session says last, and that nothing said before can be mistaken for it.

  A session ends because its story cannot be started, because the reader leaves or because the play
  has halted, and what it says last tells which of them happened.  A story may say the same words,
  but it cannot say them as the program does, with the line feed in one piece.

  1. **Plain effects** (`Effect.IsPlain`): what a session does before its end.  Whatever a play has
     shown is plain (`IsQuiet.settle`), and so are menus, complaints and the summary of the state.
     The prompts among them are counted (`IsQuiet`).

  2. **Conclusions** (`Conclusion`): the ways in which a session can end, each with its words and
     its exit code.

  3. **Endings** (`Concludes`): as everything around the last words is plain, they tell the
     conclusion (`Concludes.mem_effects_iff`).  Each of the three ways of ending says the words of
     its conclusion (`concludes_left`, `concludes_halted`, `concludes_refused`).
-/
import Gamebook.Proofs.SessionEnd
import Gamebook.Proofs.UnbrokenText

namespace Gamebook

/-! ## Last words

  What sets the parting words apart is where their line feed is.  The console hands a line feed over
  by itself and a text without one, so no text of a story can be a parting word, whatever its author
  writes.  Menus, headings and the summary do hold line feeds with other characters, but they begin
  with a blank, and no parting word does. -/

/-- What is said to a reader who leaves. -/
def farewell : String := "See you next time!\n"

/-- What is said first when the game is over. -/
def gameOverText : String := "Game over.\n"

/-- What is said when a story has come to an end. -/
def endText : String := "The End.\n"

/-- What is said only at the end of a session. -/
def partingWords : List String := [farewell, gameOverText, endText]

/-- What is said when a story cannot be started. -/
def refusalText (message : String) : String := "Could not start story: " ++ message ++ "\n"

namespace Effect

/-- It can come before the end: it is no message beside the story and none of the parting words. -/
def IsPlain : Effect → Prop
  | .out text => text ∉ partingWords
  | .err _ => False
  | .logged _ | .flush | .pause _ | .prompt _ | .saveSettings _ => True

/-- A reply is asked for. -/
def isPrompt : Effect → Bool
  | .prompt _ => true
  | _ => false

/-- It is plain and asks for nothing. -/
structure IsSilent (effect : Effect) : Prop where
  plain : effect.IsPlain
  prompt : effect.isPrompt = false

/-- The parting words are lines with their line feed, and a line feed alone is none of them. -/
theorem isSilent_of_unbroken {text : String} (h : text = "\n" ∨ '\n' ∉ text.toList) :
    (out text).IsSilent := by
  refine ⟨fun hmem => ?_, rfl⟩
  have hwords : partingWords.all (fun word =>
      word != "\n" && word.toList.contains '\n') = true := by
    decide
  have hword := List.all_eq_true.1 hwords text hmem
  rw [Bool.and_eq_true, bne_iff_ne, List.contains_iff_mem] at hword
  rcases h with hline | hnone
  · exact hword.1 hline
  · exact hnone hword.2

/-- None of the parting words begins with a blank. -/
theorem isSilent_of_blank {first rest : String} {c : Char} (hhead : first.toList.head? = some c)
    (hblank : Text.isBlank c = true) : (out (first ++ rest)).IsSilent := by
  refine ⟨fun hmem => ?_, rfl⟩
  have hwords : partingWords.all (fun word => !word.toList.head?.any Text.isBlank) = true := by
    decide
  have hword := List.all_eq_true.1 hwords (first ++ rest) hmem
  rw [String.toList_append, List.head?_append, hhead, Option.some_or, Option.any_some, hblank]
    at hword
  cases hword

/-- A menu is empty, or begins with the line feed that sets it off. -/
theorem isSilent_menuText (labels : List String) : (out (menuText labels)).IsSilent := by
  rw [menuText]
  split
  next => exact isSilent_of_unbroken (.inr List.not_mem_nil)
  next =>
    rw [String.append_assoc]
    exact @isSilent_of_blank "\n" _ '\n' (by decide) (by decide)

theorem isSilent_headingText (title : String) : (out (headingText title)).IsSilent := by
  rw [headingText, String.append_assoc]
  exact @isSilent_of_blank "\n=== " _ '\n' (by decide) (by decide)

theorem isSilent_describe (state : State) : (out (state.describe ++ "\n")).IsSilent := by
  delta State.describe
  simp only [String.append_assoc]
  exact @isSilent_of_blank "  Name: " _ ' ' (by decide) (by decide)

/-- What a console does is silent if the texts that it writes are unbroken. -/
theorem isSilent_effect {act : ConsoleAct} (h : act.IsUnbroken) : act.effect.IsSilent := by
  cases act with
  | write text => exact isSilent_of_unbroken h
  | flush => exact ⟨trivial, rfl⟩
  | pause length => exact ⟨trivial, rfl⟩

/-- Where nothing asks for a reply no prompts are counted. -/
theorem countP_isPrompt {effects : List Effect}
    (h : ∀ effect ∈ effects, effect.isPrompt = false) : effects.countP isPrompt = 0 := by
  rw [List.countP_eq_zero]
  intro effect hmem
  rw [h effect hmem]
  exact Bool.false_ne_true

end Effect

/-! ## Quiet sessions

  One lemma for each thing that a session does before its end.  All but one leave the count of the
  prompts as it is; only a menu that is put before the reader raises it (`IsQuiet.ask`).  Effects
  are kept with the newest first, which makes no difference to being plain or to the count. -/

namespace Session

variable {session : Session} {count : Nat}

/-- How often a session has asked for a reply. -/
def prompts (session : Session) : Nat := session.effects.countP Effect.isPrompt

/-- So far the session has done plain things only, and has asked for so many replies. -/
structure IsQuiet (session : Session) (count : Nat) : Prop where
  plain : ∀ effect ∈ session.effects, effect.IsPlain
  prompts : session.prompts = count

/-- The general case: silent effects leave a session quiet, and add no prompt. -/
theorem IsQuiet.emit (h : session.IsQuiet count) {effects : List Effect}
    (hsilent : ∀ effect ∈ effects, effect.IsSilent) : (session.emit effects).IsQuiet count := by
  refine ⟨fun effect hmem => ?_, ?_⟩
  · rcases List.mem_append.1 hmem with hnew | hold
    · exact (hsilent effect (List.mem_reverse.1 hnew)).plain
    · exact h.plain effect hold
  · have hnone := Effect.countP_isPrompt fun effect hmem => (hsilent effect hmem).prompt
    have hcount := h.prompts
    rw [Session.prompts] at hcount ⊢
    rw [Session.emit, List.countP_append, List.countP_reverse, hnone, hcount, Nat.zero_add]

/-- Lines of the log go to the log, and nowhere else. -/
theorem IsQuiet.emitLog (h : session.IsQuiet count) (records : List Record) :
    (session.emitLog records).IsQuiet count := by
  refine h.emit fun effect hmem => ?_
  obtain ⟨record, -, rfl⟩ := List.mem_map.1 hmem
  exact ⟨trivial, rfl⟩

/-- What a play shows goes through the console, which keeps it unbroken. -/
theorem IsQuiet.display (h : session.IsQuiet count) {event : Shown} (hevent : event.IsUnbroken) :
    (session.display event).IsQuiet count := by
  have hshown : (session.emit
      ((session.console.display event).2.map ConsoleAct.effect)).IsQuiet count := by
    refine h.emit fun effect hmem => ?_
    obtain ⟨act, hact, rfl⟩ := List.mem_map.1 hmem
    exact Effect.isSilent_effect (Console.display_unbroken session.console hevent act hact)
  -- The console is replaced as well, but being quiet is about the effects alone.
  exact ⟨hshown.plain, hshown.prompts⟩

/-- By induction on what was shown, the console being another one after each event. -/
theorem IsQuiet.displayAll (h : session.IsQuiet count) {events : List Shown}
    (hevents : ∀ event ∈ events, event.IsUnbroken) :
    (events.foldl Session.display session).IsQuiet count := by
  induction events generalizing session with
  | nil => exact h
  | cons event events ih =>
    obtain ⟨hfirst, hrest⟩ := List.forall_mem_cons.1 hevents
    exact ih (h.display hfirst) hrest

/-- What a play has shown leaves a session quiet, if it is unbroken. -/
theorem IsQuiet.settle (h : session.IsQuiet count) {play : Play} (hplay : play.IsUnbroken) :
    (session.settle play).IsQuiet count := by
  have hshown := (h.emitLog play.log).displayAll fun event hmem =>
    hplay.shown event (List.mem_reverse.1 hmem)
  exact ⟨hshown.plain, hshown.prompts⟩

/-- The complaint about a reply that was not understood is no parting word. -/
theorem IsQuiet.puzzled (h : session.IsQuiet count) (reply : String) :
    (session.puzzled reply).IsQuiet count := by
  rw [Session.puzzled]
  split
  next => exact h
  next =>
    refine h.emit (List.forall_mem_singleton.2 ⟨?_, rfl⟩)
    show Reply.unrecognised ++ "\n" ∉ partingWords
    decide

/-- Remembering the mode saves the settings, which shows nothing, or breaks the session off without
    a word. -/
theorem IsQuiet.remember (h : session.IsQuiet count) (setup : Setup) :
    (session.remember setup).IsQuiet count := by
  rw [Session.remember]
  split
  next =>
    split
    next => exact h
    next =>
      split
      next => exact ⟨h.plain, h.prompts⟩
      next => exact h.emit (List.forall_mem_singleton.2 ⟨trivial, rfl⟩)
  next => exact h

/-- A menu and a prompt are one prompt more. -/
theorem IsQuiet.ask (h : session.IsQuiet count) (labels : List String) :
    (session.emit [.out (menuText labels), .prompt promptText]).IsQuiet (count + 1) := by
  have hplain : ∀ effect ∈ .prompt promptText :: .out (menuText labels) :: session.effects,
      effect.IsPlain :=
    List.forall_mem_cons.2 ⟨trivial, List.forall_mem_cons.2
      ⟨(Effect.isSilent_menuText labels).plain, h.plain⟩⟩
  refine ⟨hplain, ?_⟩
  have hcount := h.prompts
  rw [Session.prompts] at hcount ⊢
  show (Effect.prompt promptText :: .out (menuText labels) :: session.effects).countP
    Effect.isPrompt = count + 1
  rw [List.countP_cons_of_pos rfl, List.countP_cons_of_neg Bool.false_ne_true, hcount]

/-- The summary is a heading and a description, or is left out. -/
theorem isSilent_of_mem_summary (session : Session) :
    ∀ effect ∈ session.summary, effect.IsSilent := by
  rw [summary]
  split
  next =>
    exact List.forall_mem_cons.2 ⟨Effect.isSilent_headingText _,
      List.forall_mem_singleton.2 (Effect.isSilent_describe _)⟩
  next => exact List.forall_mem_nil _

/-- Nothing can go wrong in the play, and nothing that it shows can be mistaken for the end. -/
structure IsReady (session : Session) (count : Nat) : Prop where
  sound : session.play.IsSound
  unbroken : session.play.IsUnbroken
  quiet : session.IsQuiet count

theorem IsQuiet.ready (h : session.IsQuiet count) {play : Play} (hsound : play.IsSound)
    (hunbroken : play.IsUnbroken) : (session.settle play).IsReady count :=
  ⟨settle_sound session hsound,
    ⟨hunbroken.library, hunbroken.nodes, List.forall_mem_nil _⟩, h.settle hunbroken⟩

/-- The session waits for a reply to a choice that is pending. -/
structure IsAsking (session : Session) (count : Nat) : Prop where
  ready : session.IsReady count
  phase : session.phase = .asking
  pending : ∃ place choices, session.play.status = .awaitingChoice place choices

end Session

/-! ## Conclusions

  A conclusion fixes the last words, the exit code and the status of the play in the end.  The
  lemmas below read it off the words: each of the words belongs to one conclusion or to one kind of
  them, and no words belong to two. -/

/-- How a session can end. -/
inductive Conclusion where
  /-- The story cannot be started. -/
  | refused (message : String)
  /-- The reader leaves. -/
  | left
  /-- The play has halted. -/
  | halted (halt : Halt)

namespace Conclusion

/-- The last words and the exit code. -/
def words : Conclusion → List Effect × Nat
  | refused message => ([.err (refusalText message)], 1)
  | left => ([.out farewell], 0)
  | halted halt => Session.parting halt

/-- Where the play stands in the end. -/
def Fits (status : Status) : Conclusion → Prop
  | refused _ => status = .halted .notStarted
  | left => ∃ place choices, status = .awaitingChoice place choices
  | halted halt => status = .halted halt

/-- It is no refusal. -/
def IsStarted : Conclusion → Prop
  | refused _ => False
  | left | halted _ => True

variable {conclusion : Conclusion}

theorem IsStarted.ne_refused (h : conclusion.IsStarted) (message : String) :
    conclusion ≠ .refused message := by
  rintro rfl
  exact h

/-- The last words ask for nothing. -/
theorem not_prompt_of_mem_words {effect : Effect} (hmem : effect ∈ conclusion.words.1) :
    effect.isPrompt = false := by
  have hall : conclusion.words.1.all (fun effect => !effect.isPrompt) = true := by
    cases conclusion with
    | halted halt => cases halt <;> rfl
    | _ => rfl
  rw [← Bool.not_eq_true']
  exact List.all_eq_true.1 hall effect hmem

/-- There are two exit codes. -/
theorem exitCode_eq (conclusion : Conclusion) :
    conclusion.words.2 = 0 ∨ conclusion.words.2 = 1 := by
  cases conclusion with
  | refused message => exact .inr rfl
  | left => exact .inl rfl
  | halted halt =>
    cases halt with
    | unresolved destination cause => exact .inr rfl
    | _ => exact .inl rfl

/-- The exit code for a story that was started is 1 just if it led nowhere. -/
theorem exitCode_eq_one_iff (hstarted : conclusion.IsStarted) :
    conclusion.words.2 = 1 ↔
      ∃ destination cause, conclusion = .halted (.unresolved destination cause) := by
  cases conclusion with
  | refused message => exact absurd hstarted id
  | left => simp [words]
  | halted halt => cases halt <;> simp [words, Session.parting]

/-- The farewell is for readers who leave. -/
theorem farewell_mem_iff : .out farewell ∈ conclusion.words.1 ↔ conclusion = .left := by
  cases conclusion with
  | refused message => simp [words]
  | left => simp [words]
  | halted halt => cases halt <;> simp [words, Session.parting, farewell, Halt.reason]

/-- A story has come to an end if the play has halted without an error. -/
theorem endText_mem_iff : .out endText ∈ conclusion.words.1 ↔
    ∃ halt, conclusion = .halted halt ∧ halt.error? = none := by
  cases conclusion with
  | refused message => simp [words]
  | left => simp [words, endText, farewell]
  | halted halt => cases halt <;> simp [words, Session.parting, endText, Halt.error?]

/-- That the game is over is said if the play has halted over its flag. -/
theorem gameOverText_mem_iff :
    .out gameOverText ∈ conclusion.words.1 ↔ conclusion = .halted .gameOver := by
  cases conclusion with
  | refused message => simp [words]
  | left => simp [words, gameOverText, farewell]
  | halted halt => cases halt <;> simp [words, Session.parting, gameOverText, Halt.reason]

theorem refusalText_inj {message other : String} :
    refusalText message = refusalText other ↔ message = other := by
  refine ⟨fun hsame => ?_, congrArg refusalText⟩
  exact (String.append_right_inj _).1 ((String.append_left_inj "\n").1 hsame)

/-- That a story could not be started is said for this reason alone. A story that leads nowhere has
    a message beside the story, too, but another one. -/
theorem refusalText_mem_iff {message : String} :
    .err (refusalText message) ∈ conclusion.words.1 ↔ conclusion = .refused message := by
  cases conclusion with
  | refused other => simp [words, refusalText_inj, eq_comm]
  | left => simp [words]
  | halted halt =>
    cases halt with
    | unresolved destination cause =>
      refine iff_of_false (fun hmem => ?_) (by rintro ⟨⟩)
      -- Both are messages beside the story; their first letters differ.
      have hsame : "Could not start story: " ++ message ++ "\n" =
          "Story stopped: " ++ "unresolved destination" ++ " (" ++ cause.message ++ ")\n" :=
        Effect.err.inj (List.mem_singleton.1 hmem)
      have hhead := congrArg (·.toList.head?) hsame
      have hrefused : "Could not start story: ".toList.head? = some 'C' := by decide
      have hstopped : "Story stopped: ".toList.head? = some 'S' := by decide
      simp only [String.toList_append, List.head?_append, hrefused, hstopped, Option.some_or]
        at hhead
      exact absurd hhead (by decide)
    | _ => simp [words, Session.parting]

end Conclusion

/-! ## Endings

  The effects of a session that has ended are, from the newest to the oldest, the summary, the last
  words and all that came before.  The first and the third part are plain, hence whatever is not
  plain is found among the last words. -/

namespace Session

variable {session : Session} {count : Nat} {conclusion : Conclusion}

/-- The session has ended with these words, and everything before and after them was plain. The
    summary of the state comes after them. -/
structure Concludes (session : Session) (conclusion : Conclusion) (count : Nat) : Prop where
  phase : session.phase = .ended conclusion.words.2
  fits : conclusion.Fits session.play.status
  effects : ∃ later earlier,
    session.effects = later ++ conclusion.words.1.reverse ++ earlier ∧
      ∀ effect ∈ later ++ earlier, effect.IsPlain
  prompts : session.prompts = count

/-- A quiet session that says the words of a conclusion, adds something silent and stops has
    concluded so, without having asked once more. -/
theorem IsQuiet.concludes (h : session.IsQuiet count) (hfits : conclusion.Fits session.play.status)
    {later : List Effect} (hlater : ∀ effect ∈ later, effect.IsSilent) :
    (((session.emit conclusion.words.1).emit later).stop conclusion.words.2).Concludes
      conclusion count := by
  have heffects : (((session.emit conclusion.words.1).emit later).stop
      conclusion.words.2).effects =
        later.reverse ++ conclusion.words.1.reverse ++ session.effects :=
    (List.append_assoc ..).symm
  refine ⟨rfl, hfits, ⟨later.reverse, session.effects, heffects, ?_⟩, ?_⟩
  · refine List.forall_mem_append.2 ⟨fun effect hmem => ?_, h.plain⟩
    exact (hlater effect (List.mem_reverse.1 hmem)).plain
  -- The prompts are those of the quiet session: neither part that was added has any.
  · have hnone := Effect.countP_isPrompt fun effect hmem => (hlater effect hmem).prompt
    have hwords := Effect.countP_isPrompt fun effect => @conclusion.not_prompt_of_mem_words effect
    have hcount := h.prompts
    rw [Session.prompts] at hcount ⊢
    rw [heffects, List.countP_append, List.countP_append, List.countP_reverse,
      List.countP_reverse, hnone, hwords, hcount, Nat.zero_add]

/-- What is not plain was said in the end or not at all. -/
theorem Concludes.mem_effects_iff (h : session.Concludes conclusion count) {effect : Effect}
    (hnot : ¬ effect.IsPlain) : effect ∈ session.effects ↔ effect ∈ conclusion.words.1 := by
  obtain ⟨later, earlier, heffects, hplain⟩ := h.effects
  obtain ⟨hlater, hearlier⟩ := List.forall_mem_append.1 hplain
  rw [heffects, List.mem_append, List.mem_append, List.mem_reverse]
  constructor
  · rintro ((hmem | hmem) | hmem)
    · exact absurd (hlater effect hmem) hnot
    · exact hmem
    · exact absurd (hearlier effect hmem) hnot
  · exact fun hmem => .inl (.inr hmem)

/-- The words were said in one piece. -/
theorem Concludes.infix (h : session.Concludes conclusion count) :
    conclusion.words.1.reverse <:+: session.effects := by
  obtain ⟨later, earlier, heffects, -⟩ := h.effects
  exact ⟨later, earlier, heffects.symm⟩

/-- A session that was not refused has its halt from the play. -/
theorem Concludes.halted_iff (h : session.Concludes conclusion count) {halt : Halt}
    (hstarted : conclusion.IsStarted) :
    session.play.status = .halted halt ↔ conclusion = .halted halt := by
  have hfits := h.fits
  cases conclusion with
  | refused message => exact absurd hstarted id
  | left =>
    obtain ⟨place, choices, hstatus⟩ := hfits
    rw [hstatus]
    exact iff_of_false (by rintro ⟨⟩) (by rintro ⟨⟩)
  | halted other =>
    have hstatus : session.play.status = .halted other := hfits
    rw [hstatus, Status.halted.injEq, Conclusion.halted.injEq]

/-- A session that has ended wants no reply, and takes none. -/
theorem Concludes.still (h : session.Concludes conclusion count) :
    session.pending? = none ∧ ∀ reply, session.answer reply = session := by
  refine ⟨?_, fun reply => ?_⟩
  · simp only [pending?, h.phase]
  · simp only [answer, h.phase]

/-- A reader who leaves while a choice is pending hears the farewell, and then the summary. -/
theorem concludes_left (h : session.IsQuiet count)
    (hpending : ∃ place choices, session.play.status = .awaitingChoice place choices) :
    session.finish.Concludes .left count := by
  have hends := @IsQuiet.concludes session count .left h hpending _
    (isSilent_of_mem_summary session)
  obtain ⟨place, choices, hstatus⟩ := hpending
  rw [finish, hstatus]
  exact hends

/-- A play that has halted ends the session with the words for its halt. -/
theorem concludes_halted (h : session.IsQuiet count) {halt : Halt}
    (hstatus : session.play.status = .halted halt) :
    session.finish.Concludes (.halted halt) count := by
  have hends := @IsQuiet.concludes session count (.halted halt) h hstatus _
    (isSilent_of_mem_summary session)
  rw [finish, hstatus]
  exact hends

theorem concludes_refused (h : session.IsQuiet count)
    (hstatus : session.play.status = .halted .notStarted) (message : String) :
    (session.failStart message).Concludes (.refused message) count :=
  @IsQuiet.concludes session count (.refused message) h hstatus [] (List.forall_mem_nil _)

end Session
end Gamebook
