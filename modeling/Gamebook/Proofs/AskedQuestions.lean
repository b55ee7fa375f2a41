/-
  A question is asked until a reply settles it.

  A reply settles a question if it leaves, or if it gives an answer; every other reply is passed
  over, and the question is put again.  So asking reads the replies up to the first that settles it
  and leaves the others unread, or reads them all (`IsAsked`).

  * `ask_of_unsettled`: the step.  A reply that is passed over adds what is written for it, the
    question before it and, unless nothing is left of it when it is cleaned, that it was not
    understood.  Here it is needed that such a reply gives no answer: of what is left of it no list
    of words knows (`answer?_of_blank`, `direction?_of_blank`).
  * `isAsked_of_blank`: the run, by induction on the replies.
  * `isPrefix_written`: nothing is written in view of a reply before it is read.  What is written
    by then is what is written when there are no more replies.
-/
import Gamebook.Reply

namespace Gamebook.Reply

/-! ## The replies that count -/

section

variable {α : Type} {meaning? : String → Option α} {question reply : String}

/-- The reply ends the question: it leaves, or gives an answer. -/
def Settles (meaning? : String → Option α) (reply : String) : Prop :=
  isExit reply = true ∨ ∃ answer, meaning? reply = some answer

/-- A question as it is written. -/
def put (question : String) : String × Option String := (question, some questionColor)

/-- What is written for a reply that is passed over: the question before it, and after it that it
    was not understood, unless there is nothing to understand. -/
def writtenFor (question reply : String) : List (String × Option String) :=
  put question :: if sanitize reply = "" then [] else [(unrecognised, none)]

/-- What is written until some replies have been passed over and the question is put once more. -/
def writtenUntil (question : String) (passed : List String) : List (String × Option String) :=
  passed.flatMap (writtenFor question) ++ [put question]

/-- How a question goes with these replies. The first reply that settles it ends it, and those after
    it are not read; if there is none, all are read and the next is missing. -/
inductive IsAsked (meaning? : String → Option α) (question : String) :
    (replies : List String) → Asked α → Prop
  | left {earlier later : List String} {reply : String}
      (hearlier : ∀ other ∈ earlier, ¬ Settles meaning? other) (hexit : isExit reply = true) :
      IsAsked meaning? question (earlier ++ reply :: later)
        { ending := .left, written := writtenUntil question earlier, unread := later }
  | answered {earlier later : List String} {reply : String} {answer : α}
      (hearlier : ∀ other ∈ earlier, ¬ Settles meaning? other) (hstays : isExit reply = false)
      (hanswer : meaning? reply = some answer) :
      IsAsked meaning? question (earlier ++ reply :: later)
        { ending := .answered answer, written := writtenUntil question earlier, unread := later }
  | exhausted {replies : List String} (hnone : ∀ other ∈ replies, ¬ Settles meaning? other) :
      IsAsked meaning? question replies
        { ending := .noReply, written := writtenUntil question replies, unread := [] }

/-! ## One reply

  The three things that can become of the next reply.  Each of them is stated with any replies
  behind it, and says how many of those are left unread. -/

/-- A reply that leaves or gives an answer ends the question. -/
theorem ask_of_isExit (hexit : isExit reply = true) (rest : List String) :
    ask meaning? question (reply :: rest) =
      { ending := .left, written := [put question], unread := rest } := by
  rw [ask, if_pos hexit]
  rfl

/-- A reply that gives an answer ends the question, with this answer. -/
theorem ask_of_answer (hblank : ∀ reply, sanitize reply = "" → meaning? reply = none)
    (hstays : isExit reply = false) {answer : α} (hanswer : meaning? reply = some answer)
    (rest : List String) :
    ask meaning? question (reply :: rest) =
      { ending := .answered answer, written := [put question], unread := rest } := by
  -- Something is left of the reply, for otherwise it would have no answer.
  have hsome : ¬ (sanitize reply).isEmpty = true := by
    intro hempty
    rw [hblank reply (String.isEmpty_iff.1 hempty)] at hanswer
    cases hanswer
  rw [ask, hstays, if_neg Bool.false_ne_true, if_neg hsome, hanswer]
  rfl

/-- **The step**: a reply that settles nothing is passed over. -/
theorem ask_of_unsettled (h : ¬ Settles meaning? reply) (rest : List String) :
    ask meaning? question (reply :: rest) =
      (ask meaning? question rest).after (writtenFor question reply) := by
  obtain ⟨hexit, hanswer⟩ := not_or.1 h
  have hnone : meaning? reply = none :=
    Option.eq_none_iff_forall_ne_some.2 fun answer hsome => hanswer ⟨answer, hsome⟩
  rw [ask, if_neg hexit, writtenFor]
  by_cases hempty : sanitize reply = ""
  · rw [if_pos (String.isEmpty_iff.2 hempty), if_pos hempty]
    rfl
  · rw [if_neg fun h => hempty (String.isEmpty_iff.1 h), if_neg hempty, hnone]
    rfl

/-! ## All replies

  The replies in front of the one that counts are taken away one after the other, and what is
  written for each is put in front of what is written for the rest. -/

theorem writtenUntil_cons (question reply : String) (passed : List String) :
    writtenUntil question (reply :: passed) =
      writtenFor question reply ++ writtenUntil question passed := by
  rw [writtenUntil, List.flatMap_cons, List.append_assoc, writtenUntil]

/-- A reply that is passed over comes before those that count. -/
theorem IsAsked.pass {replies : List String} {asked : Asked α}
    (h : IsAsked meaning? question replies asked) (hreply : ¬ Settles meaning? reply) :
    IsAsked meaning? question (reply :: replies) (asked.after (writtenFor question reply)) := by
  -- None of the replies in front settles the question, the new one included.
  have hpassed : ∀ {others : List String}, (∀ other ∈ others, ¬ Settles meaning? other) →
      ∀ other ∈ reply :: others, ¬ Settles meaning? other :=
    fun hothers => List.forall_mem_cons.2 ⟨hreply, hothers⟩
  rw [Asked.after]
  cases h with
  | @left earlier later last hearlier hexit =>
    rw [← writtenUntil_cons]
    exact .left (hpassed hearlier) hexit
  | @answered earlier later last answer hearlier hstays hanswer =>
    rw [← writtenUntil_cons]
    exact .answered (hpassed hearlier) hstays hanswer
  | exhausted hnone =>
    rw [← writtenUntil_cons]
    exact .exhausted (hpassed hnone)

/-- **The run**: if blank replies give no answer, a question goes as far as it has to. -/
theorem isAsked_of_blank (hblank : ∀ reply, sanitize reply = "" → meaning? reply = none)
    (question : String) (replies : List String) :
    IsAsked meaning? question replies (ask meaning? question replies) := by
  induction replies with
  | nil => exact .exhausted nofun
  | cons reply rest ih =>
    -- The next reply is the one that counts, or it comes before that one.
    by_cases hsettles : Settles meaning? reply
    · cases hexit : isExit reply with
      | true =>
        rw [ask_of_isExit hexit]
        exact @IsAsked.left _ _ _ [] rest reply nofun hexit
      | false =>
        obtain ⟨answer, hanswer⟩ := hsettles.resolve_left (by simp [hexit])
        rw [ask_of_answer hblank hexit hanswer]
        exact @IsAsked.answered _ _ _ [] rest reply answer nofun hexit hanswer
    · rw [ask_of_unsettled hsettles]
      exact ih.pass hsettles

/-- Whatever the replies are, the question is written first. -/
theorem exists_written (meaning? : String → Option α) (question : String) (replies : List String) :
    ∃ more, (ask meaning? question replies).written = put question :: more := by
  cases replies with
  | nil => exact ⟨[], rfl⟩
  | cons reply rest =>
    rw [ask]
    split
    next => exact ⟨_, rfl⟩
    next =>
      split
      next => exact ⟨_, rfl⟩
      next => split <;> exact ⟨_, rfl⟩

theorem written_append {passed : List String} (hpassed : ∀ other ∈ passed, ¬ Settles meaning? other)
    (rest : List String) :
    (ask meaning? question (passed ++ rest)).written =
      passed.flatMap (writtenFor question) ++ (ask meaning? question rest).written := by
  induction passed with
  | nil => rfl
  | cons reply passed ih =>
    obtain ⟨hreply, hothers⟩ := List.forall_mem_cons.1 hpassed
    rw [List.cons_append, ask_of_unsettled hreply, List.flatMap_cons, List.append_assoc,
      ← ih hothers]
    rfl

/-- What is written before a reply is read does not depend on it, or on those after it. -/
theorem isPrefix_written {passed : List String}
    (hpassed : ∀ other ∈ passed, ¬ Settles meaning? other) (rest : List String) :
    writtenUntil question passed <+: (ask meaning? question (passed ++ rest)).written := by
  obtain ⟨more, hmore⟩ := exists_written meaning? question rest
  rw [written_append hpassed, hmore, writtenUntil]
  exact (List.prefix_append_right_inj _).2 (List.prefix_append [put question] more)

end

/-! ## Questions and directions

  Both tables of words are asked in the same way, and neither has the empty word in it. -/

theorem answer?_of_blank {reply : String} (h : sanitize reply = "") : answer? reply = none := by
  rw [answer?, h]
  rfl

theorem direction?_of_blank {reply : String} (h : sanitize reply = "") :
    direction? reply = none := by
  rw [direction?, h]
  rfl

/-- Asking takes what it needs: the replies up to the first that settles the question, and before
    each of them the question is put, after what has to be said of the replies before. -/
structure AsksAsNeeded {α : Type} (meaning? : String → Option α) : Prop where
  asked : ∀ question replies, IsAsked meaning? question replies (ask meaning? question replies)
  before : ∀ question passed rest, (∀ reply ∈ passed, ¬ Settles meaning? reply) →
    writtenUntil question passed <+: (ask meaning? question (passed ++ rest)).written

/-- **Asking a question takes exactly the replies it needs**, be it one for an answer or one for a
    direction. -/
theorem asksAsNeeded_both : AsksAsNeeded answer? ∧ AsksAsNeeded direction? := by
  constructor
  · refine ⟨isAsked_of_blank fun _ => answer?_of_blank, fun question passed rest hpassed => ?_⟩
    exact isPrefix_written hpassed rest
  · refine ⟨isAsked_of_blank fun _ => direction?_of_blank, fun question passed rest hpassed => ?_⟩
    exact isPrefix_written hpassed rest

/-- A reply of which nothing is left is not answered, one that means nothing is, and what comes
    after the answer is not read. -/
example :
    let asked := ask answer? "Sure?" ["...", "hm", "Yes!", "no"]
    asked.ending = .answered .yes ∧ asked.unread = ["no"] ∧
      asked.written = [put "Sure?", put "Sure?", (unrecognised, none), put "Sure?"] := by
  decide +kernel

end Gamebook.Reply
