/-
  What comes of a session: its exit code, its last words and the number of its prompts.

  A story that cannot be started is refused before anything is asked.  Any other session asks for
  replies until the reader leaves or the play has halted.

  1. **The replies**: one reply ends the session or costs one prompt (`answer_cases`), and so the
     prompts of a whole session are counted (`converse_concludes`), by induction on the replies.

  2. **The beginning**: it is refused for one of three reasons (`Setup.CannotStart`,
     `begin_of_cannotStart`), or comes to a first prompt or an end (`begin_of_canStart`).

  3. **The outcome** (`converse_hasOutcome`): what was printed and the exit code are read off the
     conclusion that the session has come to (`exists_conclusion`).
-/
import Gamebook.Proofs.Conclusions
import Gamebook.Proofs.LabelReplies
import Gamebook.Proofs.MenuReplies
import Gamebook.Proofs.StoryStore

namespace Gamebook

open Markup (ParseError readStory)

namespace Session

variable {session : Session} {count : Nat} {conclusion : Conclusion}

/-! ## Replies

  A session that asks has printed so many prompts (`IsAsking`); one that has come to an end has
  printed so many and has said its last words (`Concludes`).  One reply leads from the first to
  either. -/

/-- Going on asks for one more reply, or ends with the halt of the play. -/
theorem proceed_cases (h : session.IsReady count)
    (hrun : ¬ session.play.status.isRunning = true) :
    session.proceed.IsAsking (count + 1) ∨
      ∃ halt, session.proceed.Concludes (.halted halt) count := by
  rw [proceed]
  cases hstatus : session.play.status with
  | running place index =>
    rw [hstatus] at hrun
    exact absurd rfl hrun
  -- The choices are put to the reader, with one prompt.
  | awaitingChoice place choices =>
    have hasked := h.quiet.ask (choices.map (·.label))
    exact .inl ⟨⟨h.sound, h.unbroken, ⟨hasked.plain, hasked.prompts⟩⟩, rfl, place, choices, hstatus⟩
  | halted halt => exact .inr ⟨halt, concludes_halted h.quiet hstatus⟩

/-- So does running on from where a choice or the beginning leads. -/
theorem goOn_cases (h : session.IsQuiet count) {result : Play × Option Failure}
    (hsound : result.1.IsSound) (hunbroken : result.1.IsUnbroken) (hnone : result.2 = none) :
    let next := (session.settle (Play.andRun result).1).goOn (Play.andRun result).2
    next.IsAsking (count + 1) ∨ ∃ halt, next.Concludes (.halted halt) count := by
  obtain ⟨hsame, hran⟩ := Play.andRun_sound hsound
  have hfailure : (Play.andRun result).2 = none := hsame.trans hnone
  dsimp only
  rw [hfailure]
  exact proceed_cases (h.ready hran (Play.coversNodes_unbroken.coversSteps.andRun _ hunbroken))
    (Play.not_running_of_andRun hfailure)

/-- **The step lemma**: a reply that can be read leaves the story or ends it, or costs one prompt
    more. -/
theorem answer_cases (h : session.IsAsking count) {choices : List Choice}
    (hpending : session.pending? = some choices) {reply : String}
    (hread : Reply.isExit reply = false → ∃ result, Reply.matchOption reply choices = .ok result) :
    (Reply.isExit reply = true ∧ (session.answer (some reply)).Concludes .left count) ∨
      Reply.isExit reply = false ∧
        ((session.answer (some reply)).IsAsking (count + 1) ∨
          ∃ halt, (session.answer (some reply)).Concludes (.halted halt) count) := by
  obtain ⟨hphase, place, hstatus⟩ := exists_status_of_pending hpending
  have htake : session.answer (some reply) = session.takeReply choices reply := by
    rw [answer, hphase, hstatus]
  rw [htake, takeReply]
  cases hexit : Reply.isExit reply with
  | true => exact .inl ⟨rfl, concludes_left h.ready.quiet h.pending⟩
  | false =>
    obtain ⟨result, hmatch⟩ := hread hexit
    refine .inr ⟨rfl, ?_⟩
    rw [if_neg Bool.false_ne_true, hmatch]
    have hrun : ¬ session.play.status.isRunning = true := by
      rw [hstatus]
      exact Bool.false_ne_true
    cases result with
    | none =>
      -- The complaint changes nothing but what was printed.
      have hsame : (session.puzzled reply).play = session.play := by
        rw [puzzled]
        split <;> rfl
      refine proceed_cases ⟨hsame ▸ h.ready.sound, hsame ▸ h.ready.unbroken,
        h.ready.quiet.puzzled reply⟩ ?_
      rw [hsame]
      exact hrun
    | some index =>
      obtain ⟨choice, hchoice⟩ := (Reply.means_of_matchOption hmatch).exists_choice rfl
      obtain ⟨hadmits, -⟩ := Reply.not_refused_of_getElem? hchoice hstatus
      -- What is picked is an option of the menu, so the choice is neither refused nor a fault.
      obtain ⟨-, hsound⟩ := Play.follow_sound h.ready.sound (.index index)
      have hnone : (session.play.follow (.index index)).2 = none :=
        (Play.andRun_sound hsound).1.symm.trans (h.ready.sound.choose_of_admits hadmits)
      have hunbroken := Play.coversNodes_unbroken.follow _ (.index index) h.ready.unbroken
      exact goOn_cases h.ready.quiet hsound hunbroken hnone

/-! ## Conversations

  What is known of the replies is stated for those that are read, and so it changes with the session
  as replies are taken off the front. -/

/-- Every reply that is read, and does not leave the story, can be matched with the menu. -/
def IsReadable (session : Session) (replies : List String) : Prop :=
  ∀ earlier reply later choices, replies = earlier ++ reply :: later →
    (session.after earlier).pending? = some choices → Reply.isExit reply = false →
    ∃ result, Reply.matchOption reply choices = .ok result

/-- The reader leaves while a choice is pending, by a reply or because there are no more of them. -/
def IsLeft (session : Session) (replies : List String) : Prop :=
  (∃ earlier reply later choices, replies = earlier ++ reply :: later ∧
    (session.after earlier).pending? = some choices ∧ Reply.isExit reply = true) ∨
  ∃ choices, (session.after replies).pending? = some choices

variable {first : String} {rest : List String}

theorem IsReadable.tail (h : session.IsReadable (first :: rest)) :
    (session.answer (some first)).IsReadable rest := by
  intro earlier reply later choices hreplies hpending
  exact h (first :: earlier) reply later choices (congrArg (first :: ·) hreplies) hpending

/-- Replies that do not baffle can be matched. -/
theorem isReadable_of_not_baffled {replies : List String}
    (h : ∀ reply, ¬ session.Baffled replies reply) : session.IsReadable replies := by
  intro earlier reply later choices hreplies hpending _
  exact Reply.exists_matchOption fun hbaffles =>
    h reply ⟨earlier, later, choices, hreplies, hpending, hbaffles⟩

theorem isLeft_cons : session.IsLeft (first :: rest) ↔
    (∃ choices, session.pending? = some choices ∧ Reply.isExit first = true) ∨
      (session.answer (some first)).IsLeft rest := by
  constructor
  · rintro (⟨earlier, reply, later, choices, hreplies, hpending, hexit⟩ | hended)
    · cases earlier with
      | nil =>
        cases hreplies
        exact .inl ⟨choices, hpending, hexit⟩
      | cons before earlier =>
        cases hreplies
        exact .inr (.inl ⟨earlier, reply, later, choices, rfl, hpending, hexit⟩)
    · exact .inr (.inr hended)
  · rintro (⟨choices, hpending, hexit⟩ | ⟨earlier, reply, later, choices, rfl, hleaves⟩ | hended)
    · exact .inl ⟨[], first, rest, choices, rfl, hpending, hexit⟩
    · exact .inl ⟨first :: earlier, reply, later, choices, rfl, hleaves⟩
    · exact .inr hended

/-- Nobody leaves a session that has ended. -/
theorem Concludes.not_isLeft (h : session.Concludes conclusion count) (replies : List String) :
    ¬ session.IsLeft replies := by
  obtain ⟨hpending, hstill⟩ := h.still
  induction replies with
  | nil =>
    rintro (⟨earlier, reply, later, choices, hreplies, -⟩ | ⟨choices, hsome⟩)
    · cases earlier <;> cases hreplies
    · rw [after, List.foldl_nil, hpending] at hsome
      cases hsome
  | cons first rest ih =>
    rw [isLeft_cons, hstill]
    rintro (⟨choices, hsome, -⟩ | hrest)
    · rw [hpending] at hsome
      cases hsome
    · exact ih hrest

/-- A session that has concluded reads nothing more. -/
theorem Concludes.converse (h : session.Concludes conclusion count) (replies : List String) :
    (session.converse replies).1 = session := by
  apply converse_of_not_asking
  rw [h.phase]
  rintro ⟨⟩

/-- **The run lemma**: a session that asks comes to an end with the replies, with one prompt for
    each of them at most. It ends because the reader leaves or because the play has halted. -/
theorem converse_concludes {replies : List String} (h : session.IsAsking count)
    (hread : session.IsReadable replies) :
    ∃ conclusion total, (session.converse replies).1.Concludes conclusion total ∧
      total ≤ count + replies.length ∧ (conclusion = .left ↔ session.IsLeft replies) ∧
      conclusion.IsStarted := by
  induction replies generalizing session count with
  -- No reply is left: the reader leaves, as a choice is pending.
  | nil =>
    obtain ⟨place, choices, hstatus⟩ := h.pending
    have hpending : session.pending? = some choices := by
      rw [pending?, h.phase, hstatus]
    have hend : (session.converse []).1 = session.finish := by
      rw [Session.converse, answer, h.phase, hstatus]
    rw [hend]
    exact ⟨.left, count, concludes_left h.ready.quiet h.pending, Nat.le_refl count,
      iff_of_true rfl (.inr ⟨choices, hpending⟩), trivial⟩
  | cons first rest ih =>
    obtain ⟨place, choices, hstatus⟩ := h.pending
    have hpending : session.pending? = some choices := by
      rw [pending?, h.phase, hstatus]
    rw [Session.converse, if_pos h.phase, List.length_cons]
    -- The first reply leaves and the rest is not read, or the rest is read with one prompt more, or
    -- the play has halted and the rest is not read either.
    rcases answer_cases h hpending (hread [] first rest choices rfl hpending) with
      ⟨hexit, hends⟩ | ⟨hstay, hasks | ⟨halt, hends⟩⟩
    · rw [hends.converse]
      exact ⟨.left, count, hends, by omega,
        iff_of_true rfl (isLeft_cons.2 (.inl ⟨choices, hpending, hexit⟩)), trivial⟩
    · obtain ⟨conclusion, total, hends, htotal, hleft, hstarted⟩ := ih hasks hread.tail
      refine ⟨conclusion, total, hends, by omega, ?_, hstarted⟩
      rw [isLeft_cons, hstay, hleft]
      refine ⟨.inr, ?_⟩
      rintro (⟨choices, -, hexit⟩ | hrest)
      · cases hexit
      · exact hrest
    · rw [hends.converse]
      refine ⟨.halted halt, count, hends, by omega, iff_of_false (by rintro ⟨⟩) ?_, trivial⟩
      rw [isLeft_cons, hstay]
      rintro (⟨choices, -, hexit⟩ | hrest)
      · cases hexit
      · exact hends.not_isLeft rest hrest

end Session

/-! ## The beginning

  Three things can keep a story from being started, one after the other: each of them is met only if
  those before it are not.  So a setup has one reason at most, and a session that begins has either
  met it or met none. -/

/-- Why a story cannot be started, and what tells it: its file cannot be read, its text is no story,
    or the story does not have the block to start with. -/
inductive Setup.CannotStart (setup : Setup) : (message : String) → Prop
  | unread {file : String} {failure : ReadFailure} (hfile : setup.arguments.file = .text file)
      (hread : (Session.libraryOf setup).disk.read ((Session.libraryOf setup).pathOf file) =
        .error failure) :
      CannotStart setup (ReadError.message ⟨failure, (Session.libraryOf setup).pathOf file⟩)
  | unparsed {file text : String} {error : ParseError}
      (hfile : setup.arguments.file = .text file)
      (hread : (Session.libraryOf setup).disk.read ((Session.libraryOf setup).pathOf file) =
        .ok text)
      (hstory : readStory (Session.libraryOf setup).grammar file text = .error error) :
      CannotStart setup error.message
  | unresolved {file text : String} {story : Story} {error : ResolutionError}
      (hfile : setup.arguments.file = .text file)
      (hread : (Session.libraryOf setup).disk.read ((Session.libraryOf setup).pathOf file) =
        .ok text)
      (hstory : readStory (Session.libraryOf setup).grammar file text = .ok story)
      (hblock : Library.blockOf story file (setup.arguments.block.bind Given.text?) =
        .error error) :
      CannotStart setup error.message

/-- A block of a story that is loaded is looked for in that story. -/
theorem Library.find_of_loaded {library : Library} {fileId : String} {story : Story}
    (hstory : library.stories.get? fileId = some story) (block : Option String) :
    library.find fileId block = .ok { result := blockOf story fileId block, library } := by
  rw [find, get_of_loaded hstory]
  rfl

namespace Play

variable {play : Play} {file : String} {story : Story} {block : Option String}

/-- A block that is found in a loaded story is entered. -/
theorem enterFile_of_block (hstory : play.library.stories.get? file = some story) {scene : Scene}
    (hblock : Library.blockOf story file block = .ok scene) :
    play.enterFile file block = (play.enter scene, none) := by
  have hresolve : play.library.resolve (.file file block) file = _ :=
    Library.find_of_loaded hstory block
  rw [enterFile, hresolve]
  simp only [hblock]
  rfl

/-- Where it is not found, the play stays as it was. -/
theorem enterFile_of_no_block (hstory : play.library.stories.get? file = some story)
    {error : ResolutionError} (hblock : Library.blockOf story file block = .error error) :
    play.enterFile file block = (play, some (.unresolved error)) := by
  have hresolve : play.library.resolve (.file file block) file = _ :=
    Library.find_of_loaded hstory block
  rw [enterFile, hresolve]
  simp only [hblock]
  rfl

end Play

namespace Session

variable {session : Session} {count : Nat} {setup : Setup}

/-- Loading a file leaves a session ready. -/
theorem IsReady.load (h : session.IsReady count) {file : String} {outcome : Outcome LoadError Story}
    (hload : session.play.library.loadFile file = .ok outcome) :
    (session.settle (session.play.absorb outcome)).IsReady count :=
  h.quiet.ready (h.sound.absorb (Library.keeps_loadFile h.sound.library hload))
    ⟨(h.unbroken.library.finds (Library.finds_loadFile hload)).1, h.unbroken.nodes,
      h.unbroken.shown⟩

/-- The session of a setup when its file is about to be opened: settings were read and perhaps kept,
    and nothing has happened to the play. -/
def unopened (setup : Setup) : Session :=
  let (settings, records) := Settings.load (Settings.pathBelow setup.home) setup.settings
  let fresh : Session :=
    { play := Play.fresh (libraryOf setup) { name := setup.arguments.name.shown }
      console := { mode := setup.arguments.textMode.getD settings.textMode }
      verbose := setup.arguments.verbose || setup.debug
      debug := setup.debug }
  (fresh.emitLog records).remember setup

theorem unopened_of_isUsable (h : setup.IsUsable) : (unopened setup).phase = .asking ∧
    (unopened setup).play =
      Play.fresh (libraryOf setup) { name := setup.arguments.name.shown } :=
  remember_of_isUsable h _

/-- It is ready then, and has printed no prompt. -/
theorem unopened_ready (h : setup.IsUsable) : (unopened setup).IsReady 0 := by
  have hlibrary : (libraryOf setup).IsSound :=
    ⟨fun fileId story hfound => (by cases hfound), fun _ => h.folder⟩
  obtain ⟨-, hplay⟩ := unopened_of_isUsable h
  refine ⟨?_, ?_, ?_⟩
  · rw [hplay]
    exact Play.isSound_fresh hlibrary _
  · rw [hplay]
    exact Play.isUnbroken_fresh hlibrary.parsed _
  · rw [unopened]
    apply IsQuiet.remember
    apply IsQuiet.emitLog
    exact ⟨List.forall_mem_nil _, rfl⟩

/-- A setup that can be used comes to opening its file. -/
theorem begin_eq_openFile (h : setup.IsUsable) {file : String}
    (hgiven : setup.arguments.file = .text file) :
    begin setup = (unopened setup).openFile file setup.arguments.block := by
  have hopens : begin setup = (unopened setup).openStory setup.arguments := by
    rw [begin]
    dsimp only
    split
    next fault hbroken => cases (unopened_of_isUsable h).1.symm.trans hbroken
    next => rfl
  rw [hopens, openStory, hgiven]
  cases hfolder : setup.arguments.stories with
  | none => rfl
  | some given =>
    cases given with
    | text folder => rfl
    | nothing => exact absurd hfolder h.stories

/-- The block to start with is the given one, if there is any. -/
theorem startStory_of_given {block : Option Given} (hblock : block ≠ some .nothing)
    (file : String) : session.startStory file block =
      (session.settle (session.play.start file (block.bind Given.text?)).1).goOn
        (session.play.start file (block.bind Given.text?)).2 := by
  cases block with
  | none => rfl
  | some given =>
    cases given with
    | text name => rfl
    | nothing => exact absurd rfl hblock

/-- Starting a story whose block is not found is refused. -/
theorem startStory_of_no_block (h : session.IsReady count)
    (hstatus : session.play.status = .halted .notStarted) {block : Option Given}
    (hblock : block ≠ some .nothing) {file : String} {story : Story}
    (hstory : session.play.library.stories.get? file = some story) {error : ResolutionError}
    (hnone : Library.blockOf story file (block.bind Given.text?) = .error error) :
    (session.startStory file block).Concludes (.refused error.message) count := by
  have hstart : session.play.start file (block.bind Given.text?) =
      (session.play, some (.unresolved error)) := by
    rw [Play.start, Play.enterFile_of_no_block hstory hnone]
    rfl
  rw [startStory_of_given hblock, hstart]
  exact concludes_refused (h.quiet.settle h.unbroken) hstatus error.message

/-- Starting a story whose block is found asks for a first reply, or ends with a halt. -/
theorem startStory_of_block (h : session.IsReady count) {block : Option Given}
    (hblock : block ≠ some .nothing) {file : String} (hfile : IsNulFree file) {story : Story}
    (hstory : session.play.library.stories.get? file = some story) {scene : Scene}
    (hscene : Library.blockOf story file (block.bind Given.text?) = .ok scene) :
    (session.startStory file block).IsAsking (count + 1) ∨
      ∃ halt, (session.startStory file block).Concludes (.halted halt) count := by
  have henter := Play.enterFile_of_block hstory hscene
  rw [startStory_of_given hblock]
  refine goOn_cases h.quiet (Play.enterFile_sound h.sound hfile _).2
    (Play.coversNodes_unbroken.enterFile _ file _ h.unbroken) ?_
  rw [henter]

/-- **A story that cannot be started is refused** before anything is asked. -/
theorem begin_of_cannotStart (h : setup.IsUsable) {message : String}
    (hcannot : setup.CannotStart message) : (begin setup).Concludes (.refused message) 0 := by
  have hready := unopened_ready h
  obtain ⟨-, hplay⟩ := unopened_of_isUsable h
  have hstatus : (unopened setup).play.status = .halted .notStarted := by
    rw [hplay]
    rfl
  have hlibrary : (unopened setup).play.library = libraryOf setup := by
    rw [hplay]
    rfl
  have hnul : ∀ {file}, setup.arguments.file = .text file →
      ((libraryOf setup).pathOf file).hasNul = false := by
    intro file hgiven
    obtain ⟨other, hother, hfile⟩ := h.file
    cases hgiven.symm.trans hother
    exact Path.hasNul_join h.folder (Path.hasNul_ofString hfile)
  -- In each case it is said what loading the file comes to, and the session follows that.
  cases hcannot with
  | @unread file failure hgiven hread =>
    have hload : (unopened setup).play.library.loadFile file = .ok
        { result := .error (.read ⟨failure, (libraryOf setup).pathOf file⟩)
          library := libraryOf setup } := by
      simp only [hlibrary, Library.loadFile, hnul hgiven, hread]
      rfl
    rw [begin_eq_openFile h hgiven, openFile, hload]
    exact concludes_refused (hready.load hload).quiet hstatus _
  | @unparsed file text error hgiven hread hstory =>
    have hload : (unopened setup).play.library.loadFile file = .ok
        { result := .error (.parse error), library := libraryOf setup } := by
      simp only [hlibrary, Library.loadFile, hnul hgiven, hread, Library.load_of_error hstory]
      rfl
    rw [begin_eq_openFile h hgiven, openFile, hload]
    exact concludes_refused (hready.load hload).quiet hstatus _
  | @unresolved file text story error hgiven hread hstory hblock =>
    have hload := Library.loadFile_of_read (hnul hgiven) hread hstory
    rw [← hlibrary] at hload
    rw [begin_eq_openFile h hgiven, openFile, hload]
    refine startStory_of_no_block (hready.load hload) hstatus h.block ?_ hblock
    exact (Table.get?_insert _ file story file).trans (if_pos rfl)

/-- **Every other story is started.** -/
theorem begin_of_canStart (h : setup.IsUsable) (hcan : ∀ message, ¬ setup.CannotStart message) :
    (begin setup).IsAsking 1 ∨ ∃ halt, (begin setup).Concludes (.halted halt) 0 := by
  have hready := unopened_ready h
  obtain ⟨-, hplay⟩ := unopened_of_isUsable h
  have hlibrary : (unopened setup).play.library = libraryOf setup := by
    rw [hplay]
    rfl
  obtain ⟨file, hgiven, hfile⟩ := h.file
  have hnul : ((libraryOf setup).pathOf file).hasNul = false :=
    Path.hasNul_join h.folder (Path.hasNul_ofString hfile)
  -- Whatever goes wrong here is one of the three reasons.
  cases hread : (libraryOf setup).disk.read ((libraryOf setup).pathOf file) with
  | error failure => exact absurd (.unread hgiven hread) (hcan _)
  | ok text =>
    cases hstory : readStory (libraryOf setup).grammar file text with
    | error error => exact absurd (.unparsed hgiven hread hstory) (hcan _)
    | ok story =>
      cases hblock : Library.blockOf story file (setup.arguments.block.bind Given.text?) with
      | error error => exact absurd (.unresolved hgiven hread hstory hblock) (hcan _)
      -- Nothing has gone wrong, and the block is there.
      | ok scene =>
        have hload := Library.loadFile_of_read hnul hread hstory
        rw [← hlibrary] at hload
        rw [begin_eq_openFile h hgiven, openFile, hload]
        refine startStory_of_block (hready.load hload) h.block hfile ?_ hblock
        exact (Table.get?_insert _ file story file).trans (if_pos rfl)

/-! ## The outcome

  A conclusion is one of three kinds, and all that is said of a session is read off it: its exit
  code and its last words are those of the conclusion, and the rest of what was printed has none of
  these words. -/

/-- Every session comes to a conclusion: the story is refused just if it cannot be started, and then
    nothing is asked; and the reader has left just if it is concluded so. -/
theorem exists_conclusion (h : setup.IsUsable) {replies : List String}
    (hread : (begin setup).IsReadable replies) :
    ∃ conclusion total, ((begin setup).converse replies).1.Concludes conclusion total ∧
      total ≤ replies.length + 1 ∧ (conclusion = .left ↔ (begin setup).IsLeft replies) ∧
      (∀ message, conclusion = .refused message ↔ setup.CannotStart message) ∧
      ((∃ message, setup.CannotStart message) → total = 0) := by
  by_cases hcannot : ∃ message, setup.CannotStart message
  · obtain ⟨message, hmessage⟩ := hcannot
    have hends := begin_of_cannotStart h hmessage
    rw [hends.converse]
    refine ⟨.refused message, 0, hends, Nat.zero_le _,
      iff_of_false (by rintro ⟨⟩) (hends.not_isLeft replies),
      fun other => ⟨fun hsame => ?_, fun hother => ?_⟩, fun _ => rfl⟩
    · cases hsame
      exact hmessage
    -- Two reasons would both be told, and only one of them is.
    · have htold : .err (refusalText other) ∈ (begin setup).effects :=
        ((begin_of_cannotStart h hother).mem_effects_iff id).2 List.mem_cons_self
      exact Conclusion.refusalText_mem_iff.1 ((hends.mem_effects_iff id).1 htold)
  · have hcan : ∀ message, ¬ setup.CannotStart message := not_exists.1 hcannot
    rcases begin_of_canStart h hcan with hasks | ⟨halt, hends⟩
    · obtain ⟨conclusion, total, hends, htotal, hleft, hstarted⟩ := converse_concludes hasks hread
      exact ⟨conclusion, total, hends, by omega, hleft,
        fun message => iff_of_false (hstarted.ne_refused message) (hcan message),
        fun hmessage => absurd hmessage hcannot⟩
    · rw [hends.converse]
      exact ⟨.halted halt, 0, hends, Nat.zero_le _,
        iff_of_false (by rintro ⟨⟩) (hends.not_isLeft replies),
        fun message => iff_of_false (by rintro ⟨⟩) (hcan message), fun _ => rfl⟩

/-- What comes of the replies to a session, which is `last` in the end. -/
structure HasOutcome (setup : Setup) (replies : List String) (last : Session) : Prop where
  prompts : last.prompts ≤ replies.length + 1
  exitCode : last.phase = .ended 0 ∨ last.phase = .ended 1
  refused : ∀ message, .err (refusalText message) ∈ last.effects ↔ setup.CannotStart message
  unasked : (∃ message, setup.CannotStart message) → last.phase = .ended 1 ∧ last.prompts = 0
  failed : (∀ message, ¬ setup.CannotStart message) →
    (last.phase = .ended 1 ↔
      ∃ destination cause, last.play.status = .halted (.unresolved destination cause))
  ending : (∀ message, ¬ setup.CannotStart message) →
    ((begin setup).IsLeft replies ↔ ¬ ∃ halt, last.play.status = .halted halt)
  left : .out farewell ∈ last.effects ↔ (begin setup).IsLeft replies
  ended : .out endText ∈ last.effects ↔ (∀ message, ¬ setup.CannotStart message) ∧
    ∃ halt, last.play.status = .halted halt ∧ halt.error? = none
  gameOver : .out gameOverText ∈ last.effects ↔ last.play.status = .halted .gameOver
  /-- The newest effect comes first. -/
  order : last.play.status = .halted .gameOver →
    [.out endText, .out gameOverText] <:+: last.effects

/-- **What comes of a session.** Whatever the files of the stories hold and whatever the replies
    are, so long as none of those that are read is a fault: a session ends, after one prompt more
    than there are replies at most. A story that cannot be started is refused without a prompt and
    with the exit code 1. Else the code is 1 just if the play has halted at a destination that leads
    nowhere; the farewell is said just if the reader left while a choice was pending, and the end
    told just if the play has halted without an error, first that the game is over if it is. -/
theorem converse_hasOutcome (h : setup.IsUsable) {replies : List String}
    (hread : (begin setup).IsReadable replies) :
    HasOutcome setup replies ((begin setup).converse replies).1 := by
  obtain ⟨conclusion, total, hends, htotal, hleft, hrefused, hunasked⟩ :=
    exists_conclusion h hread
  -- A conclusion that is no refusal is one of a session that was started.
  have hstarted : (∀ message, ¬ setup.CannotStart message) → conclusion.IsStarted := by
    intro hcan
    cases conclusion with
    | refused message => exact absurd ((hrefused message).1 rfl) (hcan message)
    | _ => trivial
  -- A parting word is printed just if it is one of the conclusion.
  have hsaid : ∀ text ∈ partingWords,
      .out text ∈ ((begin setup).converse replies).1.effects ↔ .out text ∈ conclusion.words.1 :=
    fun text hmem => hends.mem_effects_iff (not_not_intro hmem)
  -- The play has halted at the end of the game just if the conclusion says so.
  have hover : conclusion = .halted .gameOver ↔
      ((begin setup).converse replies).1.play.status = .halted .gameOver := by
    constructor
    · rintro rfl
      exact hends.fits
    · intro hstatus
      cases conclusion with
      | refused message => cases hstatus.symm.trans hends.fits
      | _ => exact (hends.halted_iff trivial).1 hstatus
  refine
    { prompts := hends.prompts.trans_le htotal
      exitCode := ?_
      refused := fun message => ?_
      unasked := fun hcannot => ?_
      failed := fun hcan => ?_
      ending := fun hcan => ?_
      left := ?_
      ended := ?_
      gameOver := ?_
      order := fun hstatus => ?_ }
  · rw [hends.phase]
    exact conclusion.exitCode_eq.imp (congrArg Phase.ended) (congrArg Phase.ended)
  · rw [hends.mem_effects_iff id, Conclusion.refusalText_mem_iff, hrefused]
  · obtain ⟨message, hmessage⟩ := hcannot
    have hsame := (hrefused message).2 hmessage
    subst hsame
    exact ⟨hends.phase, hends.prompts.trans (hunasked ⟨message, hmessage⟩)⟩
  · rw [hends.phase, Phase.ended.injEq, Conclusion.exitCode_eq_one_iff (hstarted hcan)]
    exact exists₂_congr fun destination cause => (hends.halted_iff (hstarted hcan)).symm
  · rw [← hleft]
    constructor
    · rintro rfl ⟨halt, hstatus⟩
      cases (hends.halted_iff trivial).1 hstatus
    · intro hnone
      cases conclusion with
      | refused message => exact absurd (hstarted hcan) id
      | left => rfl
      | halted halt => exact absurd ⟨halt, hends.fits⟩ hnone
  · rw [hsaid farewell (by decide), Conclusion.farewell_mem_iff, hleft]
  · rw [hsaid endText (by decide), Conclusion.endText_mem_iff]
    constructor
    · rintro ⟨halt, rfl, hnone⟩
      exact ⟨fun message hcannot => (by cases (hrefused message).2 hcannot),
        halt, hends.fits, hnone⟩
    · rintro ⟨hcan, halt, hstatus, hnone⟩
      exact ⟨halt, (hends.halted_iff (hstarted hcan)).1 hstatus, hnone⟩
  · rw [hsaid gameOverText (by decide), Conclusion.gameOverText_mem_iff, hover]
  · have hsame := hover.2 hstatus
    subst hsame
    exact hends.infix

/-- Saying something that means nothing, and going on to the end. -/
theorem converse_hasOutcome_crossing :
    crossingSetup.IsUsable ∧ (begin crossingSetup).IsReadable ["why", "1"] ∧
      HasOutcome crossingSetup ["why", "1"] ((begin crossingSetup).converse ["why", "1"]).1 ∧
      ((begin crossingSetup).converse ["why", "1"]).1.phase = .ended 0 ∧
      ((begin crossingSetup).converse ["why", "1"]).1.prompts = 2 := by
  obtain ⟨hended, hprompts⟩ : ((begin crossingSetup).converse ["why", "1"]).1.phase = .ended 0 ∧
      ((begin crossingSetup).converse ["why", "1"]).1.prompts = 2 := by
    decide +kernel
  have hread : (begin crossingSetup).IsReadable ["why", "1"] := by
    apply isReadable_of_not_baffled
    rcases endsWith_converse (begin_sound isUsable_crossingSetup) ["why", "1"] with
      ⟨-, hnone⟩ | ⟨reply, -, hbroken⟩
    · exact hnone
    · rw [hended] at hbroken
      cases hbroken
  exact ⟨isUsable_crossingSetup, hread, converse_hasOutcome isUsable_crossingSetup hread, hended,
    hprompts⟩

end Session
end Gamebook
