/-
  How a session ends, whatever the reader types.

  A session of stories that are read from files asks for replies as long as a choice is pending, and
  then ends with the exit code 0 or 1.  Only one kind of reply breaks it off: one of digits alone,
  of which one at least is a digit in some other shape, such as a superscript.  Such a reply counts
  as a number of the menu, and then cannot be read as one.

  * `Reply.Baffles`: these replies, and that no others have a fault (`exists_matchOption`).
  * `Session.IsSound`: the play is sound, and the session either has a choice pending or has ended.
    Every reply that does not baffle keeps a session so (`answer_sound`), and so does beginning one
    (`begin_sound`).
  * `converse_ends`: what comes of it in the end, once the replies have run out.
-/
import Gamebook.Proofs.SoundPlay
import Gamebook.Session

namespace Gamebook

open Text

/-! ## Replies that baffle

  A reply is cleaned first, and what is left of it is compared with the labels.  Only if it is none
  of them is it looked at as a number: it is taken for one if all its characters are digits of any
  kind, and then read as one, which decimal digits alone can be. -/

namespace Reply

/-- The reply is none of the labels and is made of digits, one of which at least is not decimal. -/
def Baffles (choices : List Choice) (reply : String) : Prop :=
  (∀ choice ∈ choices, sanitize choice.label ≠ sanitize reply) ∧
    (∀ c ∈ (sanitize reply).toList, isDigitLike c = true) ∧
    ∃ c ∈ (sanitize reply).toList, isDecimal c = false

variable {choices : List Choice} {reply : String}

/-- Digits that are not all decimal cannot be read as a number. -/
theorem menuNumber?_of_odd {cleaned : String}
    (hdigits : ∀ c ∈ cleaned.toList, isDigitLike c = true)
    (hodd : ∃ c ∈ cleaned.toList, isDecimal c = false) (count : Nat) :
    menuNumber? cleaned count = .error (.notDecimal cleaned) := by
  obtain ⟨c, hmem, hc⟩ := hodd
  have hnot : cleaned.toList.all isDecimal = false := List.all_eq_false.2 ⟨c, hmem, by simp [hc]⟩
  have hread : readNatural? cleaned.toList = none := by
    rw [readNatural?, hnot, Bool.and_false, if_neg Bool.false_ne_true]
  rw [menuNumber?, if_pos (List.all_eq_true.2 hdigits), hread]

/-- Everything else is a place in the menu or none. -/
theorem exists_menuNumber? {cleaned : String} (hsome : cleaned.toList ≠ [])
    (h : ¬ ((∀ c ∈ cleaned.toList, isDigitLike c = true) ∧
      ∃ c ∈ cleaned.toList, isDecimal c = false)) (count : Nat) :
    ∃ place, menuNumber? cleaned count = .ok place := by
  rw [menuNumber?]
  split
  next hdigits =>
    have hdecimal : cleaned.toList.all isDecimal = true := by
      by_contra hodd
      obtain ⟨c, hmem, hc⟩ := List.all_eq_false.1 (Bool.eq_false_iff.2 hodd)
      exact h ⟨List.all_eq_true.1 hdigits, c, hmem, Bool.eq_false_iff.2 hc⟩
    rw [readNatural?, List.isEmpty_eq_false_iff.2 hsome, hdecimal]
    exact ⟨_, rfl⟩
  next => exact ⟨_, rfl⟩

theorem toList_ne_nil_of_baffles (h : Baffles choices reply) : (sanitize reply).toList ≠ [] := by
  obtain ⟨c, hmem, -⟩ := h.2.2
  exact List.ne_nil_of_mem hmem

/-- A reply that baffles has a fault. -/
theorem matchOption_of_baffles (h : Baffles choices reply) :
    matchOption reply choices = .error (.notDecimal (sanitize reply)) := by
  have hempty : ¬ (sanitize reply).isEmpty = true := by
    intro hempty
    apply toList_ne_nil_of_baffles h
    rw [String.isEmpty_iff.1 hempty]
    rfl
  -- No label is matched, so the reply is looked at as a number.
  have hlabel :
      (choices.findIdx? fun choice => sanitize choice.label == sanitize reply) = none := by
    refine List.findIdx?_eq_none_iff.2 fun choice hmem => ?_
    exact beq_eq_false_iff_ne.2 (h.1 choice hmem)
  simp only [matchOption, if_neg hempty, hlabel, menuNumber?_of_odd h.2.1 h.2.2]

/-- **Every other reply picks an option or none.** -/
theorem exists_matchOption (h : ¬ Baffles choices reply) :
    ∃ index, matchOption reply choices = .ok index := by
  rw [matchOption]
  split
  next => exact ⟨_, rfl⟩
  next hempty =>
    have hsome : (sanitize reply).toList ≠ [] := by
      intro hnil
      exact hempty (String.isEmpty_iff.2 (String.toList_eq_nil_iff.1 hnil))
    split
    next => exact ⟨_, rfl⟩
    next hlabel =>
      have hlabels : ∀ choice ∈ choices, sanitize choice.label ≠ sanitize reply := by
        intro choice hmem
        exact beq_eq_false_iff_ne.1 (List.findIdx?_eq_none_iff.1 hlabel choice hmem)
      obtain ⟨place, hplace⟩ :=
        exists_menuNumber? hsome (fun hodd => h ⟨hlabels, hodd⟩) choices.length
      rw [hplace]
      cases place with
      | none => exact ⟨_, rfl⟩
      | some index => exact ⟨_, rfl⟩

/-- A reply of digits does not leave the story. -/
theorem not_isExit_of_digits (h : ∀ c ∈ (sanitize reply).toList, isDigitLike c = true) :
    isExit reply = false := by
  -- Every word that leaves the story has a letter in it.
  have hwords :
      (WordList.exits.all fun word => word.toList.any fun c => !isDigitLike c) = true := by
    decide
  rw [isExit, ← Bool.not_eq_true, List.contains_iff_mem]
  intro hmem
  obtain ⟨c, hc, hletter⟩ := List.any_eq_true.1 (List.all_eq_true.1 hwords _ hmem)
  rw [h c hc] at hletter
  cases hletter

end Reply

/-! ## Sound sessions

  A session goes through phases, and the invariant ties the phase to the status of the play: the
  session asks for a reply just where the play waits for a choice.  Being broken off is the one
  phase that is left out. -/

namespace Session

/-- The play is sound, and the session has a choice pending or has ended with 0 or 1. -/
structure IsSound (session : Session) : Prop where
  play : session.play.IsSound
  phase : (session.phase = .asking ∧
      ∃ place choices, session.play.status = .awaitingChoice place choices) ∨
    session.phase = .ended 0 ∨ session.phase = .ended 1

variable {session : Session}

/-- A session that is finished has ended with 0 or 1. -/
theorem phase_finish (session : Session) :
    session.finish.phase = .ended 0 ∨ session.finish.phase = .ended 1 := by
  rw [finish]
  cases session.play.status with
  | halted halt =>
    cases halt with
    | unresolved destination cause => exact .inr rfl
    | _ => exact .inl rfl
  | _ => exact .inl rfl

theorem finish_sound (h : session.play.IsSound) : session.finish.IsSound := by
  refine ⟨?_, .inr (phase_finish session)⟩
  rw [finish]
  exact h

/-- A session asks where a choice is pending, and ends everywhere else. -/
theorem proceed_sound (h : session.play.IsSound) : session.proceed.IsSound := by
  cases hstatus : session.play.status with
  | awaitingChoice place choices =>
    rw [proceed]
    simp only [hstatus]
    exact ⟨h, .inl ⟨rfl, place, choices, hstatus⟩⟩
  | _ =>
    rw [proceed]
    simp only [hstatus]
    exact finish_sound h

/-- What a session shows and logs leaves the play as it is. -/
theorem settle_sound (session : Session) {play : Play} (h : play.IsSound) :
    (session.settle play).play.IsSound :=
  ⟨h.library, h.place, h.nodes, h.choices, h.cursors⟩

/-- A failure that is no fault is told to the reader, and the session asks again or ends. -/
theorem goOn_sound (h : session.play.IsSound) {failure : Option Failure}
    (hfailure : ∀ fault, failure ≠ some (.fault fault)) : (session.goOn failure).IsSound := by
  cases failure with
  | none => exact proceed_sound h
  | some failure =>
    cases failure with
    | unresolved error => exact ⟨h, .inr (.inr rfl)⟩
    | refused error => exact proceed_sound h
    | fault fault => exact absurd rfl (hfailure fault)

/-! ## Replies

  One reply is the step.  Which replies are read depends on the session, since one that has ended
  reads none; so a reply that baffles is told of together with the replies in front of it
  (`Baffled`). -/

/-- A reply that does not baffle leaves the session sound, whatever else it is. -/
theorem takeReply_sound (h : session.play.IsSound) {choices : List Choice} {reply : String}
    (hreply : ¬ Reply.Baffles choices reply) : (session.takeReply choices reply).IsSound := by
  rw [takeReply]
  split
  next => exact finish_sound h
  next =>
    obtain ⟨index, hmatch⟩ := Reply.exists_matchOption hreply
    rw [hmatch]
    cases index with
    | none =>
      apply proceed_sound
      rw [puzzled]
      split <;> exact h
    | some index =>
      obtain ⟨hfails, hsound⟩ := Play.follow_sound h (.index index)
      obtain ⟨hsame, hran⟩ := Play.andRun_sound hsound
      apply goOn_sound
      · exact settle_sound session hran
      · intro fault hfault
        obtain ⟨error, herror⟩ := hfails _ (hsame.symm.trans hfault)
        cases herror

/-- A reply that baffles breaks the session off. -/
theorem takeReply_of_baffles {choices : List Choice} {reply : String}
    (h : Reply.Baffles choices reply) :
    session.takeReply choices reply = session.breakOff (.notDecimal (Reply.sanitize reply)) := by
  rw [takeReply, Reply.not_isExit_of_digits h.2.1, if_neg Bool.false_ne_true,
    Reply.matchOption_of_baffles h]

/-- The choices for which a reply is wanted. -/
def pending? (session : Session) : Option (List Choice) :=
  match session.phase, session.play.status with
  | .asking, .awaitingChoice _ choices => some choices
  | _, _ => none

/-- A sound session wants a reply to some choices, or has ended and stays as it is. -/
theorem IsSound.cases (h : session.IsSound) :
    (session.phase = .asking ∧ ∃ choices, session.pending? = some choices ∧
      session.answer none = session.finish ∧
      ∀ reply, session.answer (some reply) = session.takeReply choices reply) ∨
    ((session.phase = .ended 0 ∨ session.phase = .ended 1) ∧ session.pending? = none ∧
      ∀ reply, session.answer reply = session) := by
  rcases h.phase with ⟨hphase, place, choices, hstatus⟩ | hended
  · refine .inl ⟨hphase, choices, ?_, ?_, fun reply => ?_⟩
    · simp only [pending?, hphase, hstatus]
    · simp only [answer, hphase, hstatus]
    · simp only [answer, hphase, hstatus]
  · refine .inr ⟨hended, ?_, fun reply => ?_⟩
    · rcases hended with hphase | hphase <;> simp only [pending?, hphase]
    · rcases hended with hphase | hphase <;> simp only [answer, hphase]

/-- The session after some replies, as far as it asks for them. -/
def after (session : Session) (replies : List String) : Session :=
  replies.foldl (fun session reply => session.answer (some reply)) session

/-- One of these replies is this one, and when it is read it baffles. -/
def Baffled (session : Session) (replies : List String) (reply : String) : Prop :=
  ∃ earlier later choices, replies = earlier ++ reply :: later ∧
    (session.after earlier).pending? = some choices ∧ Reply.Baffles choices reply

theorem baffled_cons {first reply : String} {rest : List String} :
    session.Baffled (first :: rest) reply ↔
      (first = reply ∧ ∃ choices, session.pending? = some choices ∧ Reply.Baffles choices reply) ∨
        (session.answer (some first)).Baffled rest reply := by
  constructor
  · rintro ⟨earlier, later, choices, hreplies, hpending, hbaffles⟩
    cases earlier with
    | nil =>
      cases hreplies
      exact .inl ⟨rfl, choices, hpending, hbaffles⟩
    | cons before earlier =>
      cases hreplies
      exact .inr ⟨earlier, later, choices, rfl, hpending, hbaffles⟩
  · rintro (⟨rfl, choices, hpending, hbaffles⟩ | ⟨earlier, later, choices, rfl, hpending, hbaffles⟩)
    · exact ⟨[], rest, choices, rfl, hpending, hbaffles⟩
    · exact ⟨first :: earlier, later, choices, rfl, hpending, hbaffles⟩

/-- A session that wants no reply takes none. -/
theorem converse_of_not_asking (h : session.phase ≠ .asking) (replies : List String) :
    (session.converse replies).1 = session := by
  cases replies with
  | nil =>
    rw [converse, answer]
    split
    next hasking _ => exact absurd hasking h
    next => rfl
  | cons reply rest => rw [converse, if_neg h]

/-- An ended session reads nothing, so nothing baffles it. -/
theorem not_baffled_of_still (hpending : session.pending? = none)
    (hstill : ∀ reply, session.answer reply = session) (replies : List String) (reply : String) :
    ¬ session.Baffled replies reply := by
  induction replies with
  | nil =>
    rintro ⟨earlier, later, choices, hreplies, -⟩
    cases earlier <;> cases hreplies
  | cons first rest ih =>
    rw [baffled_cons, hstill]
    rintro (⟨-, choices, hsome, -⟩ | hrest)
    · rw [hpending] at hsome
      cases hsome
    · exact ih hrest

/-- How a session ends: with 0 or 1, if no reply baffles, or else by breaking off over one that
    does. -/
def EndsWith (session last : Session) (replies : List String) : Prop :=
  ((last.phase = .ended 0 ∨ last.phase = .ended 1) ∧ ∀ reply, ¬ session.Baffled replies reply) ∨
    ∃ reply, session.Baffled replies reply ∧
      last.phase = .broken (.notDecimal (Reply.sanitize reply))

/-- **The run lemma**: one reply after the other leaves a sound session sound, up to the first that
    baffles. -/
theorem endsWith_converse (h : session.IsSound) (replies : List String) :
    session.EndsWith (session.converse replies).1 replies := by
  induction replies generalizing session with
  | nil =>
    have hnone : ∀ reply, ¬ session.Baffled [] reply := by
      rintro reply ⟨earlier, later, choices, hreplies, -⟩
      cases earlier <;> cases hreplies
    refine .inl ⟨?_, hnone⟩
    rw [converse]
    rcases h.cases with ⟨-, choices, -, hfinish, -⟩ | ⟨hended, -, hstill⟩
    · rw [hfinish]
      exact phase_finish session
    · rw [hstill]
      exact hended
  | cons first rest ih =>
    rcases h.cases with ⟨hasking, choices, hpending, -, htake⟩ | ⟨hended, hpending, hstill⟩
    · rw [converse, if_pos hasking, EndsWith]
      simp only [baffled_cons, hpending, Option.some.injEq, exists_eq_left']
      -- The first reply either is the one that breaks the session off, and no more are read, or
      -- leaves a sound session for the rest of the replies.
      by_cases hbaffles : Reply.Baffles choices first
      · have hbroken : (session.answer (some first)).phase =
            .broken (.notDecimal (Reply.sanitize first)) := by
          rw [htake, takeReply_of_baffles hbaffles]
          rfl
        rw [converse_of_not_asking (by rw [hbroken]; exact nofun)]
        exact .inr ⟨first, .inl ⟨rfl, hbaffles⟩, hbroken⟩
      · have hsound : (session.answer (some first)).IsSound := by
          rw [htake]
          exact takeReply_sound h.play hbaffles
        rcases ih hsound with ⟨hended, hnone⟩ | ⟨reply, hreply, hbroken⟩
        · refine .inl ⟨hended, fun reply => ?_⟩
          rintro (⟨rfl, hfirst⟩ | hrest)
          · exact hbaffles hfirst
          · exact hnone reply hrest
        · exact .inr ⟨reply, .inr hreply, hbroken⟩
    · have hasking : session.phase ≠ .asking := by
        rcases hended with hphase | hphase <;> rw [hphase] <;> exact nofun
      rw [converse_of_not_asking hasking]
      exact .inl ⟨hended, not_baffled_of_still hpending hstill _⟩

/-! ## Beginning

  Before the first reply the settings are read and perhaps kept, the file is loaded and the story
  begun.  Each of these can fail without a fault, in which case the session ends. -/

end Session

/-- The options that are there are given something, no path holds the character NUL, and settings
    that are to be kept have no folder in their place. What the paths lead to does not matter. -/
structure Setup.IsUsable (setup : Setup) : Prop where
  stories : setup.arguments.stories ≠ some .nothing
  file : ∃ file, setup.arguments.file = .text file ∧ IsNulFree file
  block : setup.arguments.block ≠ some .nothing
  folder : (Session.libraryOf setup).base.hasNul = false
  settings : setup.arguments.remember = true → setup.arguments.textMode.isSome = true →
    setup.settings ≠ some .folder

namespace Session

variable {session : Session} {setup : Setup}

/-- Starting a story leaves the session sound, whether or not its block is found. -/
theorem startStory_sound (h : session.play.IsSound) {file : String} (hfile : IsNulFree file)
    {block : Option Given} (hblock : block ≠ some .nothing) :
    (session.startStory file block).IsSound := by
  -- Entering the block, running on from there and telling of a failure.
  have hgoes : ∀ name, ((session.settle (session.play.start file name).1).goOn
      (session.play.start file name).2).IsSound := by
    intro name
    obtain ⟨hfails, hsound⟩ := Play.enterFile_sound h hfile name
    obtain ⟨hsame, hran⟩ := Play.andRun_sound hsound
    apply goOn_sound
    · exact settle_sound session hran
    · intro fault hfault
      obtain ⟨error, herror⟩ := hfails _ (hsame.symm.trans hfault)
      cases herror
  cases block with
  | none => exact hgoes none
  | some given =>
    cases given with
    | text name => exact hgoes (some name)
    | nothing => exact absurd rfl hblock

/-- Whatever the file holds, its story is begun or the session ends. -/
theorem openFile_sound (h : session.play.IsSound)
    (hbase : session.play.library.base.hasNul = false) {file : String} (hfile : IsNulFree file)
    {block : Option Given} (hblock : block ≠ some .nothing) :
    (session.openFile file block).IsSound := by
  obtain ⟨outcome, hload⟩ := Library.exists_loadFile hbase hfile
  have hsettled : (session.settle (session.play.absorb outcome)).play.IsSound :=
    settle_sound session (h.absorb (Library.keeps_loadFile h.library hload))
  rw [openFile, hload]
  dsimp only
  cases outcome.result with
  | error error => exact ⟨hsettled, .inr (.inr rfl)⟩
  | ok story => exact startStory_sound hsettled hfile hblock

/-- So does opening it with what is given on the command line. -/
theorem openStory_sound (h : session.play.IsSound)
    (hbase : session.play.library.base.hasNul = false) {arguments : Arguments}
    (hstories : arguments.stories ≠ some .nothing) {file : String}
    (hgiven : arguments.file = .text file) (hfile : IsNulFree file)
    (hblock : arguments.block ≠ some .nothing) : (session.openStory arguments).IsSound := by
  have hopens := openFile_sound h hbase hfile hblock
  rw [openStory, hgiven]
  cases hfolder : arguments.stories with
  | none => exact hopens
  | some given =>
    cases given with
    | text folder => exact hopens
    | nothing => exact absurd hfolder hstories

/-- Keeping the settings touches neither the play nor the phase. -/
theorem remember_of_isUsable (h : setup.IsUsable) (session : Session) :
    (session.remember setup).phase = session.phase ∧
      (session.remember setup).play = session.play := by
  rw [remember]
  cases hmode : setup.arguments.textMode with
  | none => exact ⟨rfl, rfl⟩
  | some mode =>
    dsimp only
    cases hremember : setup.arguments.remember with
    | false => exact ⟨rfl, rfl⟩
    | true =>
      have hplace : setup.settings ≠ some .folder :=
        h.settings hremember (by rw [hmode, Option.isSome_some])
      rw [Settings.save, if_neg hplace]
      exact ⟨rfl, rfl⟩

/-- A session begins sound. -/
theorem begin_sound (h : setup.IsUsable) : (begin setup).IsSound := by
  obtain ⟨file, hgiven, hfile⟩ := h.file
  have hlibrary : (libraryOf setup).IsSound :=
    ⟨fun fileId story hfound => (by cases hfound), fun _ => h.folder⟩
  have hfresh := Play.isSound_fresh hlibrary { name := setup.arguments.name.shown }
  rw [begin]
  dsimp only
  split
  next fault hbroken =>
    rw [(remember_of_isUsable h _).1] at hbroken
    cases hbroken
  next =>
    apply openStory_sound _ _ h.stories hgiven hfile h.block
    · rw [(remember_of_isUsable h _).2]
      exact hfresh
    · rw [(remember_of_isUsable h _).2]
      exact h.folder

/-- **A session ends normally unless a reply baffles.** From a setup that can be used, whatever the
    files of the stories hold and whatever the replies are, the session ends with 0 or 1 when no
    reply baffles; and when one does, it breaks off over that reply. -/
theorem converse_ends (h : setup.IsUsable) (replies : List String) :
    (begin setup).EndsWith ((begin setup).converse replies).1 replies :=
  endsWith_converse (begin_sound h) replies

/-- A folder with a story that asks to go on or to stay. -/
def crossingSetup : Setup where
  arguments := { stories := some (.text "stories"), file := .text "one.txt" }
  disk :=
    { contents := [(["stories", "one.txt"], .text ("@block start\nWhat now?\n"
        ++ "@option Go on -> next\n@option Stay -> start\n@end\n@block next\nBye.\n@end\n"))] }

theorem isUsable_crossingSetup : crossingSetup.IsUsable where
  stories := by decide
  file := ⟨"one.txt", rfl, by decide⟩
  block := by decide
  folder := by decide
  settings := nofun

/-- Saying something that means nothing, and going on. -/
theorem converse_ends_crossing :
    crossingSetup.IsUsable ∧
      (begin crossingSetup).EndsWith ((begin crossingSetup).converse ["why", "1"]).1 ["why", "1"] ∧
      ((begin crossingSetup).converse ["why", "1"]).1.phase = .ended 0 :=
  ⟨isUsable_crossingSetup, converse_ends isUsable_crossingSetup _, by decide +kernel⟩

/-- A superscript two is a digit, and no decimal one. -/
theorem converse_breaks_crossing :
    ((begin crossingSetup).converse ["²"]).1.phase = .broken (.notDecimal "²") := by
  decide +kernel

end Session
end Gamebook
