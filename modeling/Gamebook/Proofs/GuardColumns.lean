/-
  Where the flaws behind the destination of an option are told to be.

  The column of what stands behind the destination is not kept: the reader takes this text out,
  trimmed, and looks for it again from the destination on, and then for the condition in it.  What
  is found is the first place where the same characters stand, and there may be one in front of the
  right one: in the destination, or in the word `if`.

  * `offsetOf_append`: the end of a text is found where it stands just if it does not occur earlier,
    and else further in front.
  * `FollowedOption`: an option line whose label and destination can be read, with more behind them.
  * `IsReached`: the line that is read next, inside a block and with nothing wrong in front of it.
  * `guardColumn_of_readStory`: so the column of an error behind the destination is never too large,
    and it is the right one just if nothing occurs earlier.

  So a letter as the condition is already enough to be told of at the wrong place, if it is one of
  the word `if`.
-/
import Gamebook.Proofs.FlawColumns

namespace Gamebook.Text

/-- What is found stands there, and nowhere in front of that. -/
theorem isFirst_of_indexOf? {piece text : List Char} {index : Nat}
    (h : indexOf? piece text = some index) :
    piece <+: text.drop index ∧ ∀ earlier < index, ¬ piece <+: text.drop earlier := by
  induction text generalizing index with
  | nil =>
    rw [indexOf?] at h
    split at h
    next hempty =>
      cases h
      rw [List.isEmpty_iff.1 hempty]
      exact ⟨List.nil_prefix, fun _ hlt => absurd hlt (Nat.not_lt_zero _)⟩
    next => cases h
  | cons c rest ih =>
    rw [indexOf?] at h
    split at h
    next hpre =>
      cases h
      exact ⟨List.isPrefixOf_iff_prefix.1 hpre, fun _ hlt => absurd hlt (Nat.not_lt_zero _)⟩
    next hpre =>
      obtain ⟨before, hbefore, rfl⟩ := Option.map_eq_some_iff.1 h
      obtain ⟨hstands, hearlier⟩ := ih hbefore
      refine ⟨hstands, fun earlier hlt => ?_⟩
      cases earlier with
      | zero => exact fun hhere => hpre (List.isPrefixOf_iff_prefix.2 hhere)
      | succ earlier => exact hearlier earlier (by omega)

/-- The piece stands in `front ++ piece` not only at the end, but begins in front of it as well. -/
def OccursEarlier (piece front : List Char) : Prop :=
  ∃ index, index < front.length ∧ piece <+: (front ++ piece).drop index

instance (piece front : List Char) : Decidable (OccursEarlier piece front) :=
  inferInstanceAs (Decidable (∃ index, index < front.length ∧ _))

end Gamebook.Text

namespace Gamebook.Markup

open Gamebook.Text

/-- **The end of a text is found where it stands just if it does not occur earlier**; else it is
    found in front of that. -/
theorem offsetOf_append (piece front : List Char) :
    offsetOf piece (front ++ piece) ≤ front.length ∧
      (offsetOf piece (front ++ piece) = front.length ↔ ¬ OccursEarlier piece front) := by
  obtain ⟨index, hindex⟩ := Option.isSome_iff_exists.1
    (indexOf?_isSome_iff.2 (List.suffix_append front piece).isInfix)
  obtain ⟨hstands, hfirst⟩ := isFirst_of_indexOf? hindex
  have hend : piece <+: (front ++ piece).drop front.length := by
    rw [List.drop_left]
  have hle : index ≤ front.length := Nat.le_of_not_lt fun hlt => hfirst _ hlt hend
  rw [offsetOf, hindex, Option.getD_some]
  refine ⟨hle, ?_, fun hnone => ?_⟩
  · rintro heq ⟨earlier, hlt, hoccurs⟩
    exact hfirst earlier (heq ▸ hlt) hoccurs
  · exact Nat.le_antisymm hle (Nat.le_of_not_lt fun hlt => hnone ⟨index, hlt, hstands⟩)

/-! ## Options with more behind the destination

  The parts of such a line are fields, each with what is known of it, so that the statements further
  on need no hypotheses on how the line is divided. -/

/-- A line that is an option, whose label and destination can be read, and which has more behind the
    destination. -/
structure FollowedOption (grammar : Grammar) (line : List Char) where
  directive : Directive
  isOption : IsDirective grammar line .option directive
  /-- What is in front of the last arrow, and what is behind it. -/
  before : List Char
  after : List Char
  divided : splitLast? "->".toList directive.arguments = some (before, after)
  label : List Char
  keywords : List String
  labelled : readLabel directive.argumentColumn before = .ok (label, keywords)
  named : trim label ≠ []
  /-- The destination, which goes on up to the first space, and the blanks behind this space. -/
  token : List Char
  gap : List Char
  /-- What there is more, from its first character that is no blank. -/
  more : List Char
  target : trimLeft after = token ++ ' ' :: (gap ++ more)
  unspaced : ' ' ∉ token
  blank : ∀ c ∈ gap, isBlank c = true
  followed : more ≠ []
  first : ∀ c, more.head? = some c → isBlank c = false
  destination : Destination
  leads : readDestination
    (directive.argumentColumn + (directive.arguments.length - (trimLeft after).length)) token =
      .ok destination

namespace FollowedOption

variable {grammar : Grammar} {line : List Char}

/-- What is searched in front of `more`: the destination and the blanks behind it. -/
def lead (option : FollowedOption grammar line) : List Char := option.token ++ ' ' :: option.gap

/-- The column that the destination begins in. -/
def column (option : FollowedOption grammar line) : Nat :=
  option.directive.argumentColumn +
    (option.directive.arguments.length - (trimLeft option.after).length)

theorem target_eq (option : FollowedOption grammar line) :
    trimLeft option.after = option.lead ++ option.more := by
  rw [option.target, lead, List.append_assoc, List.cons_append]

theorem arguments_eq (option : FollowedOption grammar line) :
    option.directive.arguments = option.before ++ '-' :: '>' :: option.after :=
  (splitLast?_eq_some_iff.1 option.divided).1

/-- Such a line, taken apart: the column of the destination is the one that it stands in, and behind
    `more` there are only blanks. -/
theorem exists_line (option : FollowedOption grammar line) :
    ∃ front trail, line = front ++ option.lead ++ option.more ++ trail ∧
      front.length + 1 = option.column ∧ ∀ c ∈ trail, isBlank c = true := by
  obtain ⟨front, trail, hline, hcolumn, htrail, -⟩ :=
    Directive.exists_line option.isOption.divides
  have hafter : option.after.takeWhile isBlank ++ trimLeft option.after = option.after :=
    List.takeWhile_append_dropWhile
  have hwhole := option.arguments_eq
  rw [← hafter] at hwhole
  refine ⟨front ++ (option.before ++ '-' :: '>' :: option.after.takeWhile isBlank), trail, ?_, ?_,
    htrail⟩
  · refine hline.trans ?_
    rw [hwhole, option.target_eq]
    simp only [List.append_assoc, List.cons_append]
  · rw [column, ← hcolumn, hwhole]
    simp only [List.length_append, List.length_cons]
    omega

/-- What there is more is trimmed already, being the end of the arguments. -/
theorem trim_more (option : FollowedOption grammar line) : trim option.more = option.more := by
  obtain ⟨-, -, -, -, -, htrim⟩ := Directive.exists_line option.isOption.divides
  have htarget : option.more <:+ option.after := by
    refine List.IsSuffix.trans ?_ (List.dropWhile_suffix isBlank)
    rw [show option.after.dropWhile isBlank = _ from option.target_eq]
    exact List.suffix_append _ _
  have hsuffix : option.more <:+ option.directive.arguments := by
    rw [option.arguments_eq]
    exact htarget.trans ((List.suffix_append ['-', '>'] _).trans (List.suffix_append _ _))
  rw [trim, trimLeft_eq_self option.first]
  exact trimRight_of_suffix hsuffix (trimRight_of_trim htrim)

/-- What is behind the destination is taken out as it stands in the line. -/
theorem trim_rest (option : FollowedOption grammar line) :
    trim (option.gap ++ option.more) = option.more := by
  rw [trim_append_of_blank option.blank, option.trim_more]

/-- Something stands behind the word `if` and its blanks. -/
theorem condition_ne_nil (option : FollowedOption grammar line) {pad condition : List Char}
    (hif : option.more = "if ".toList ++ pad ++ condition) (hpad : ∀ c ∈ pad, isBlank c = true) :
    condition ≠ [] := by
  rintro rfl
  have hblank : ∀ c ∈ ' ' :: pad, isBlank c = true := List.forall_mem_cons.2 ⟨by decide, hpad⟩
  have hends : option.more = "if".toList ++ ' ' :: pad := by
    rw [hif, List.append_nil]
    rfl
  have hlast := List.rdropWhile_eq_self_iff.1 (trimRight_of_trim option.trim_more) option.followed
  refine hlast (hblank _ ?_)
  simp only [hends, List.getLast_append_of_ne_nil _ (List.cons_ne_nil ' ' pad)]
  exact List.getLast_mem _

/-- A flaw of what is behind the destination is the flaw of the line. -/
theorem read_of_flaw (option : FollowedOption grammar line) {flaw : Flaw}
    (h : readGuard option.column (option.lead ++ option.more) (option.gap ++ option.more) =
      .error flaw) :
    Statement.read grammar line = .error flaw := by
  have hnamed : ¬ (trim option.label).isEmpty = true :=
    fun hempty => option.named (List.isEmpty_iff.1 hempty)
  have htarget : splitFirst ' ' (trimLeft option.after) =
      (option.token, option.gap ++ option.more) := by
    rw [option.target]
    exact splitFirst_append option.unspaced _
  have hoption : readOption option.directive.argumentColumn option.directive.arguments =
      .error flaw := by
    rw [← option.target_eq, column] at h
    simp only [readOption, option.divided, option.labelled, bind, Except.bind]
    rw [if_neg hnamed, htarget]
    dsimp only
    rw [option.leads]
    dsimp only
    rw [h]
  rw [option.isOption.read_eq, Directive.statement, hoption]
  rfl

end FollowedOption

/-! ## Flaws behind the destination

  There are two: what stands there is not the word `if` with something behind it, or the something
  is no condition.  The second one has a column of its own, counted from the condition. -/

section

variable {target rest more : List Char} (column : Nat)

/-- More that is not the word `if` and a condition is refused where it is found. -/
theorem readGuard_of_not_if (htrim : trim rest = more) (hmore : more ≠ [])
    (h : ¬ "if ".toList <+: more) :
    readGuard column target rest =
      .error (Flaw.at (column + offsetOf more target) more .conditionKeywordExpected) := by
  have hsome : ¬ more.isEmpty = true := fun hempty => hmore (List.isEmpty_iff.1 hempty)
  have hword : (splitFirst ' ' more).1 ≠ "if".toList ∨
      (trim (splitFirst ' ' more).2).isEmpty = true := by
    -- The first word is another one, or it is all there is.
    by_cases hspace : ' ' ∈ more
    · obtain ⟨word, others, rfl, hfree⟩ := List.eq_append_cons_of_mem hspace
      rw [splitFirst_append hfree]
      refine .inl ?_
      rintro rfl
      exact h ⟨others, rfl⟩
    · rw [splitFirst_of_not_mem hspace]
      exact .inr rfl
  simp only [readGuard, htrim]
  rw [if_neg hsome, if_pos (by simpa using hword)]

/-- Of the word `if` and a condition, the condition is read in the column that it is found in. -/
theorem readGuard_of_if {pad condition : List Char} (htrim : trim rest = more)
    (hmore : more = "if ".toList ++ pad ++ condition) (hpad : ∀ c ∈ pad, isBlank c = true)
    (hcondition : trim condition = condition) (hsome : condition ≠ []) :
    readGuard column target rest =
      (readCondition (column + offsetOf more target + offsetOf condition more) condition).map
        some := by
  have hdivided : splitFirst ' ' more = ("if".toList, pad ++ condition) := by
    rw [hmore]
    exact splitFirst_append (show ' ' ∉ "if".toList by decide) (pad ++ condition)
  have hword : ¬ more.isEmpty = true := by
    rw [hmore]
    exact Bool.false_ne_true
  have hfound : ¬ condition.isEmpty = true := fun hempty => hsome (List.isEmpty_iff.1 hempty)
  simp only [readGuard, htrim]
  rw [if_neg hword, hdivided]
  dsimp only
  rw [trim_append_of_blank hpad, hcondition, if_neg (by simpa using hfound)]

end

/-! ## Lines that come to be read

  To speak of the error of a file, the line in question has to be read at all. -/

/-- The line of this number is inside a block when it is read, and nothing is wrong in front of
    it. -/
def IsReached (grammar : Grammar) (text : String) (number : Nat) (line : List Char) : Prop :=
  ∃ earlier later draft block, linesOf text.toList = earlier ++ line :: later ∧
    number = earlier.length + 1 ∧ Draft.takeLines grammar {} 1 earlier = .ok draft ∧
    draft.current = some block

section

variable {grammar : Grammar} {line : List Char} {number : Nat}

/-- The flaw of a line that comes to be read is the error of its file. -/
theorem readStory_of_flaw {text : String} {flaw : Flaw}
    (hreached : IsReached grammar text number line)
    (h : Statement.read grammar line = .error flaw) (fileId : String) :
    readStory grammar fileId text = .error ⟨fileId, number, flaw⟩ := by
  obtain ⟨earlier, later, draft, block, hlines, rfl, htaken, hcurrent⟩ := hreached
  have hline : draft.takeLine grammar (1 + earlier.length) line = .error flaw := by
    rw [Draft.takeLine, hcurrent]
    show Statement.read grammar line >>= _ = _
    rw [h]
    rfl
  have hfailed : readLines grammar fileId (linesOf text.toList) =
      .error (earlier.length + 1, flaw) := by
    rw [readLines, hlines, Draft.takeLines_append, htaken, Except.bind, Draft.takeLines, hline,
      Nat.add_comm]
    rfl
  rw [readStory, hfailed]

/-- A conditional is refused for its condition. -/
theorem readCondition_of_refused {directive : Directive} {flaw : Flaw}
    (hdirective : IsDirective grammar line .openIf directive)
    (h : Statement.read grammar line = .error flaw) :
    readCondition directive.argumentColumn directive.arguments = .error flaw := by
  rw [hdirective.read_eq, Directive.statement] at h
  cases hread : readCondition directive.argumentColumn directive.arguments with
  | ok condition =>
    rw [hread] at h
    cases h
  | error other =>
    rw [hread] at h
    cases h
    rfl

/-! ## Where the column points

  Both halves are put together from where the piece is found and from what the reader makes of it
  there.  That the condition is refused alike behind `@if` makes it possible to say which column is
  the right one without looking into the reader of conditions. -/

/-- **What is wrong behind the destination of an option is told of where it stands just if it does
    not occur earlier.** The line ends with what there is behind the destination, apart from blanks.

    If this is not the word `if` and a condition, it is told of itself, and it must not begin in
    front of its place from the destination on. If it is, and the condition is one that is refused
    behind `@if`, in whatever grammar, the flaw is the same as there, and as far behind the
    beginning of the condition; then the condition must not begin in `if` and the blanks behind it
    either. Where there is such an occurrence, the column told is too small. -/
theorem guardColumn_of_readStory {text : String} (option : FollowedOption grammar line)
    (hreached : IsReached grammar text number line) (fileId : String) :
    ∃ front trail, line = front ++ option.lead ++ option.more ++ trail ∧
      (∀ c ∈ trail, isBlank c = true) ∧
      (¬ "if ".toList <+: option.more →
        ∃ column, readStory grammar fileId text = .error ⟨fileId, number,
            Flaw.at column option.more .conditionKeywordExpected⟩ ∧
          column ≤ (front ++ option.lead).length + 1 ∧
          (column = (front ++ option.lead).length + 1 ↔
            ¬ OccursEarlier option.more option.lead)) ∧
      ∀ pad condition, option.more = "if ".toList ++ pad ++ condition →
        (∀ c ∈ pad, isBlank c = true) →
        ∀ (other : Grammar) opener directive refused, IsDirective other opener .openIf directive →
          directive.arguments = condition → Statement.read other opener = .error refused →
          ∃ column, readStory grammar fileId text = .error ⟨fileId, number,
              { refused with column }⟩ ∧
            column + directive.argumentColumn ≤
              refused.column + ((front ++ option.lead ++ "if ".toList ++ pad).length + 1) ∧
            (column + directive.argumentColumn =
                refused.column + ((front ++ option.lead ++ "if ".toList ++ pad).length + 1) ↔
              ¬ OccursEarlier option.more option.lead ∧
                ¬ OccursEarlier condition ("if ".toList ++ pad)) := by
  obtain ⟨front, trail, hline, hcolumn, htrail⟩ := option.exists_line
  obtain ⟨hmore, hplace⟩ := offsetOf_append option.more option.lead
  refine ⟨front, trail, hline, htrail, fun hother => ?_, ?_⟩
  · have hread := option.read_of_flaw
      (readGuard_of_not_if option.column option.trim_rest option.followed hother)
    refine ⟨_, readStory_of_flaw hreached hread fileId, ?_, ?_⟩
    · rw [List.length_append]
      omega
    · rw [List.length_append, ← hplace]
      omega
  · intro pad condition hif hpad other opener directive refused hdirective hsame hrefused
    obtain ⟨offset, hoffset, helsewhere⟩ :=
      readCondition_elsewhere (hsame ▸ readCondition_of_refused hdirective hrefused)
    have hcondition : trim condition = condition := by
      obtain ⟨-, -, -, -, -, htrim⟩ := Directive.exists_line hdirective.divides
      rw [← hsame, htrim]
    obtain ⟨hfound, hword⟩ := offsetOf_append condition ("if ".toList ++ pad)
    rw [← hif] at hfound hword
    have hread := option.read_of_flaw ((readGuard_of_if option.column option.trim_rest hif hpad
      hcondition (option.condition_ne_nil hif hpad)).trans (by rw [helsewhere]; rfl))
    refine ⟨_, readStory_of_flaw hreached hread fileId, ?_, ?_⟩
    · simp only [List.length_append] at hfound ⊢
      omega
    · rw [← hplace, ← hword]
      simp only [List.length_append] at hfound ⊢
      omega

/-- An option whose guard is a word that no condition begins with. -/
def lampOption : FollowedOption {} "@option Go -> b if lamp".toList where
  directive := ⟨1, "option".toList, 9, "Go -> b if lamp".toList⟩
  isOption := ⟨by decide +kernel, by decide, by decide⟩
  before := "Go ".toList
  after := " b if lamp".toList
  divided := by decide +kernel
  label := "Go".toList
  keywords := []
  labelled := by decide +kernel
  named := by decide +kernel
  token := "b".toList
  gap := []
  more := "if lamp".toList
  target := by decide +kernel
  unspaced := by decide
  blank := nofun
  followed := by decide
  first c hc := by
    cases hc
    decide
  destination := .block "b"
  leads := by decide +kernel

/-- The word is told of where it stands, fifteen characters further on than behind `@if`. -/
theorem guardColumn_of_readStory_lamp :
    ∃ front trail column, "@option Go -> b if lamp".toList =
        front ++ "b ".toList ++ "if lamp".toList ++ trail ∧
      readStory {} "fork" "@block a\n@option Go -> b if lamp\n@end\n" =
        .error ⟨"fork", 2, ⟨.unexpectedWord "lamp", column, "lamp"⟩⟩ ∧
      column + 5 = 5 + ((front ++ "b ".toList ++ "if ".toList).length + 1) := by
  have hheading : Heading.read {} "@block a".toList =
      .ok (some (.block "a" ⟨1, "block".toList, 8, "a".toList⟩)) := by decide +kernel
  have hreached : IsReached {} "@block a\n@option Go -> b if lamp\n@end\n" 2
      "@option Go -> b if lamp".toList := by
    refine ⟨["@block a".toList], ["@end".toList], { current := some { name := "a", line := 1 } },
      { name := "a", line := 1 }, by decide +kernel, rfl, ?_, rfl⟩
    simp only [Draft.takeLines, Draft.takeLine, hheading]
    rfl
  obtain ⟨front, trail, hline, -, -, hif⟩ := guardColumn_of_readStory lampOption hreached "fork"
  obtain ⟨column, hread, -, hplace⟩ := hif [] "lamp".toList rfl nofun {} "@if lamp".toList
    ⟨1, "if".toList, 5, "lamp".toList⟩ ⟨.unexpectedWord "lamp", 5, "lamp"⟩
    ⟨by decide +kernel, by decide, by decide⟩ rfl (by decide +kernel)
  have htold := hplace.2 ⟨by decide +kernel, by decide +kernel⟩
  rw [List.append_nil] at htold
  exact ⟨front, trail, column, hline, hread, htold⟩

/-- A letter behind the destination is found in the destination, and a letter behind the word `if`
    is found in this word: both are told of two characters too far in front. -/
theorem guardColumn_of_readStory_letter :
    readStory {} "fork" "@block a\n@option Go -> next t\n@end\n" =
        .error ⟨"fork", 2, Flaw.at 18 "t".toList .conditionKeywordExpected⟩ ∧
      "@option Go -> next t".toList = "@option Go -> next ".toList ++ "t".toList ∧
      18 ≠ "@option Go -> next ".toList.length + 1 ∧
      readStory {} "fork" "@block a\n@option Go -> b if f\n@end\n" =
        .error ⟨"fork", 2, ⟨.unexpectedWord "f", 18, "f"⟩⟩ ∧
      "@option Go -> b if f".toList = "@option Go -> b if ".toList ++ "f".toList ∧
      18 ≠ "@option Go -> b if ".toList.length + 1 := by
  decide +kernel

end

end Gamebook.Markup
