/-
  Writing an option and reading it again gives the same option.

  1. **Reading what was written**, from behind as the reader goes: behind the last arrow there is a
     field, which is divided at its first space into the destination and the guard; in front of it,
     behind the last bracket, there are the keywords, none of which holds a bracket or a comma; what
     is left is the label.  A label without keywords is not taken for a list, since it does not both
     hold a bracket and end with one.

  2. **What was read can be written**: behind the last arrow and the last bracket there is no other,
     the parts of a list hold no commas, and a label that could be taken for a list has been.

  A choice that can be written is thus what its line is read as, alone or in a file, and every
  choice that a line of a file is read as can be written (`option_roundTrip`).

  What can be written is stated in `Choice.IsWritable`, and again the two directions together say
  that this is exactly what lines are read as.  The marks that a label may hold are the reason why
  the order of the steps matters: first the arrow is looked for, from the end, and only then the
  bracket.
-/
import Gamebook.Proofs.OptionWriting

namespace Gamebook.Markup

open Gamebook.Text

/-! ## Keywords

  Each keyword is written without blanks around it, and read so: the blank behind a comma is trimmed
  away. -/

/-- A keyword is not refused as the name of a word list that there is none of. -/
theorem listed_of_isKeyword {keyword : String} (h : IsKeyword keyword) :
    (decide (keyword.toList.head? = some directiveMark) &&
      !WordList.isName (String.ofList (keyword.toList.drop 1))) = false := by
  rw [Bool.and_eq_false_iff, decide_eq_false_iff_not, Bool.not_eq_false']
  by_cases hmark : keyword.toList.head? = some directiveMark
  · right
    obtain ⟨rest, hchars⟩ := List.head?_eq_some_iff.1 hmark
    have hkeyword : keyword = "@" ++ String.ofList rest := by
      rw [← String.ofList_toList (s := keyword), hchars, ← List.singleton_append,
        String.ofList_append]
      rfl
    rw [hchars]
    exact mem_named_iff.1 (h.2 _ hkeyword)
  · exact .inl hmark

/-- Parts that are keywords, apart from blanks around them, are read as these keywords. -/
theorem readKeywords_of_trim {list : List Char} {column : Nat} {parts : List (List Char)}
    {keywords : List String}
    (h : List.Forall₂ (fun part keyword => trim part = keyword.toList) parts keywords)
    (hkeywords : ∀ keyword ∈ keywords, IsKeyword keyword) :
    readKeywords list column parts = .ok keywords := by
  induction h generalizing column with
  | nil => rfl
  | @cons part keyword parts keywords htrim _ ih =>
    obtain ⟨hkeyword, hrest⟩ := List.forall_mem_cons.1 hkeywords
    have hsome : ¬ keyword.toList.isEmpty = true :=
      fun hempty => hkeyword.1.1 (List.isEmpty_iff.1 hempty)
    rw [readKeywords, htrim, if_neg hsome, listed_of_isKeyword hkeyword, ih hrest,
      String.ofList_toList]
    rfl

/-- Keywords that were read are the parts of the list without the blanks around them. -/
theorem eq_of_readKeywords {list : List Char} {column : Nat} {parts : List (List Char)}
    {keywords : List String} (h : readKeywords list column parts = .ok keywords) :
    keywords = parts.map fun part => String.ofList (trim part) := by
  induction parts generalizing column keywords with
  | nil => cases h; rfl
  | cons part rest ih =>
    simp only [readKeywords] at h
    split at h
    next => cases h
    next =>
      split at h
      next => cases h
      next =>
        obtain ⟨others, hothers, rfl⟩ := map_eq_ok_iff.1 h
        rw [List.map_cons, ← ih hothers]

/-- The parts of a list of keywords. -/
theorem trim_splitWhere_intercalate {first : String} {others : List String}
    (h : ∀ keyword ∈ first :: others, IsTrimmed keyword ∧ ',' ∉ keyword.toList) :
    List.Forall₂ (fun part keyword => trim part = keyword.toList)
      (splitWhere (· = ',') (List.intercalate ", ".toList ((first :: others).map String.toList)))
      (first :: others) := by
  have hkept : ∀ piece ∈ (first :: others).map String.toList, ∀ c ∈ piece,
      decide (c = ',') = false := by
    intro piece hpiece c hc
    obtain ⟨keyword, hkeyword, rfl⟩ := List.mem_map.1 hpiece
    exact decide_eq_false fun heq => (h keyword hkeyword).2 (heq ▸ hc)
  have hparts : splitWhere (· = ',')
      (List.intercalate [',', ' '] (first.toList :: others.map String.toList)) =
        first.toList :: (others.map String.toList).map ([' '] ++ ·) :=
    splitWhere_intercalate (by decide) (List.forall_mem_singleton.2 (by decide)) hkept
  -- All parts but the first begin with the blank that stands behind the comma.
  rw [List.map_cons, show ", ".toList = [',', ' '] from rfl, hparts]
  refine .cons (h first List.mem_cons_self).1.2 ?_
  rw [List.forall₂_map_left_iff, List.forall₂_map_left_iff, List.forall₂_same]
  intro keyword hkeyword
  show trim (' ' :: keyword.toList) = keyword.toList
  rw [trim_cons_of_blank (by decide)]
  exact (h keyword (List.mem_cons_of_mem first hkeyword)).1.2

/-! ## Labels

  The reader tells a label without keywords from one with a list by two characters: it has a list if
  it ends with a closing bracket and there is an opening one somewhere. -/

/-- A label is taken for one without keywords if it does not end with brackets. -/
theorem readLabel_bare {text : List Char} (column : Nat)
    (h : ¬ ('[' ∈ trimRight text ∧ (trimRight text).getLast? = some ']')) :
    readLabel column text = .ok (trimRight text, []) := by
  simp only [readLabel]
  split
  next label list hlast hsplit =>
    have hbracket : '[' ∈ trimRight text :=
      (splitLast?_isSome '[' _).1 (by rw [hsplit]; rfl)
    exact absurd ⟨hbracket, hlast⟩ h
  next => rfl

/-- Behind the last bracket there are keywords. -/
theorem readLabel_list {text label list : List Char} {keywords : List String} (column : Nat)
    (htext : trimRight text = label ++ '[' :: (list ++ [']'])) (hbracket : '[' ∉ list)
    (hread : ∀ column, readKeywords list column (splitWhere (· = ',') list) = .ok keywords) :
    readLabel column text = .ok (label, keywords) := by
  have hlast : (trimRight text).getLast? = some ']' := by
    rw [htext, ← List.cons_append, ← List.append_assoc, List.getLast?_concat]
  have hsplit : splitLast? ['['] (trimRight text) = some (label, list ++ [']']) := by
    refine splitLast?_singleton_iff.2 ⟨htext, fun hmem => ?_⟩
    rcases List.mem_append.1 hmem with hlist | hend
    · exact hbracket hlist
    · exact absurd (List.mem_singleton.1 hend) (by decide)
  simp only [readLabel, hlast, hsplit, List.dropLast_concat, hread]
  rfl

/-- What is in front of an arrow: a label without keywords, or one with a list behind it. -/
theorem cases_of_readLabel {column : Nat} {text label : List Char} {keywords : List String}
    (h : readLabel column text = .ok (label, keywords)) :
    (keywords = [] ∧ label = trimRight text ∧
      ¬ ('[' ∈ trimRight text ∧ (trimRight text).getLast? = some ']')) ∨
    ∃ list, trimRight text = label ++ '[' :: list ∧ '[' ∉ list ∧ keywords =
      (splitWhere (· = ',') list.dropLast).map fun part => String.ofList (trim part) := by
  simp only [readLabel] at h
  split at h
  next front list hlast hsplit =>
    obtain ⟨read, hread, heq⟩ := map_eq_ok_iff.1 h
    cases heq
    obtain ⟨htext, hbracket⟩ := splitLast?_singleton_iff.1 hsplit
    exact .inr ⟨list, htext, hbracket, eq_of_readKeywords hread⟩
  next hother =>
    cases h
    refine .inl ⟨rfl, rfl, ?_⟩
    rintro ⟨hbracket, hlast⟩
    obtain ⟨⟨front, list⟩, hsplit⟩ :=
      Option.isSome_iff_exists.1 ((splitLast?_isSome '[' _).2 hbracket)
    exact hother front list hlast hsplit

/-- **The label and the keywords are read as they were written**, up to a blank behind the label. -/
theorem readLabel_written {choice : Choice} (h : choice.IsWritable) (column : Nat) :
    ∃ label, trim label = choice.label.toList ∧
      readLabel column (choice.label.toList ++ (writeKeywords choice.keywords).toList ++ [' ']) =
        .ok (label, choice.keywords) := by
  obtain ⟨hsome, htrim⟩ := h.label
  -- The blank in front of the arrow is left out; the one in front of the bracket is not, and stays
  -- behind the label until that is trimmed.
  cases hkeywords : choice.keywords with
  | nil =>
    have htext : trimRight (choice.label.toList ++ (writeKeywords []).toList ++ [' ']) =
        choice.label.toList := by
      rw [trimRight_concat_of_blank (by decide), show (writeKeywords []).toList = [] from rfl,
        List.append_nil, trimRight_of_trim htrim]
    refine ⟨choice.label.toList, htrim, ?_⟩
    rw [readLabel_bare column (by rw [htext]; exact h.bare hkeywords), htext]
  | cons first others =>
    have hall := h.keywords
    have hfree := h.free
    rw [hkeywords] at hall hfree
    have htext : trimRight (choice.label.toList ++ (writeKeywords (first :: others)).toList ++
        [' ']) = (choice.label.toList ++ [' ']) ++ '[' ::
          (List.intercalate ", ".toList ((first :: others).map String.toList) ++ [']']) := by
      rw [trimRight_concat_of_blank (by decide), toList_writeKeywords, ← List.cons_append,
        ← List.cons_append, ← List.append_assoc, trimRight_concat_of_not_blank (by decide)]
      simp only [List.append_assoc, List.cons_append, List.nil_append]
    refine ⟨choice.label.toList ++ [' '], ?_, readLabel_list column htext ?_ fun column => ?_⟩
    · rw [trim_concat_of_blank (by decide), htrim]
    · intro hbracket
      rcases mem_of_mem_list hbracket with hmark | ⟨keyword, hkeyword, hmem⟩
      · exact absurd hmark (by decide)
      · exact hfree keyword hkeyword '[' (by decide) hmem
    · exact readKeywords_of_trim (trim_splitWhere_intercalate fun keyword hkeyword =>
        ⟨(hall keyword hkeyword).1, hfree keyword hkeyword ',' (by decide)⟩) hall

/-! ## Destinations and guards

  The field behind the arrow is divided at its first space.  A destination holds none, so it is what
  stands in front; the guard is the rest, without its word. -/

/-- A destination is read as it was written. -/
theorem readDestination_text {destination : Destination} (h : destination.IsNamed) (column : Nat) :
    readDestination column destination.text.toList = .ok destination := by
  have htrim := (isField_destination h).trim_eq
  have hsome : ¬ destination.text.toList.isEmpty = true :=
    fun hempty => text_ne_nil_of_isNamed h (List.isEmpty_iff.1 hempty)
  simp only [readDestination, htrim]
  rw [if_neg hsome]
  cases destination with
  -- Without a colon it is a block; a name of a block holds none.
  | block name =>
    have hcolon : ¬ name.toList.contains ':' = true := fun hmem =>
      (of_isFileChar (isFileChar_of_mem_name h (List.contains_iff_mem.1 hmem))).2.2 rfl
    show (if name.toList.contains ':' = true then _ else _) = _
    have hname : isName (Destination.block name).text.toList = true := h
    rw [if_neg hcolon, if_pos hname, Destination.text, String.ofList_toList]
  -- The first colon is the one that was written, as a name of a file holds none.
  | file id target =>
    have htext : (Destination.file id target).text.toList =
        id.toList ++ ':' :: (target.getD "").toList := by
      rw [Destination.text, String.toList_append, String.toList_append, List.append_assoc]
      rfl
    have hcolon : (id.toList ++ ':' :: (target.getD "").toList).contains ':' = true :=
      List.contains_iff_mem.2 (List.mem_append_right _ List.mem_cons_self)
    have hid : ':' ∉ id.toList :=
      fun hmem => (of_isFileChar (isFileChar_of_mem_fileName h.1 hmem)).2.2 rfl
    rw [htext, if_pos hcolon, splitFirst_append hid, h.1]
    cases target with
    | none => simp
    | some name =>
      have hname : isName name.toList = true := h.2 name rfl
      have hblock : ¬ name.toList.isEmpty = true := by
        intro hempty
        rw [List.isEmpty_iff.1 hempty] at hname
        cases hname
      simp [hname, hblock]
  | unknown form => exact absurd h id

/-- A field that denotes a condition is read as a guard behind its word. -/
theorem readGuard_of_denotes {text : String} {condition : Condition} (hfield : IsField text.toList)
    (hdenotes : Denotes text condition) (column : Nat) (target : List Char) :
    readGuard column target ("if".toList ++ ' ' :: text.toList) = .ok (some condition) := by
  have hword : IsField "if".toList := isField_of_all (by decide) (by decide)
  have hguard := hword.spaced hfield
  have hsome : ¬ ("if".toList ++ ' ' :: text.toList).isEmpty = true :=
    fun hempty => hguard.nonempty (List.isEmpty_iff.1 hempty)
  have hcondition : text.toList.isEmpty = false :=
    Bool.eq_false_iff.2 fun hempty => hfield.nonempty (List.isEmpty_iff.1 hempty)
  simp only [readGuard, hguard.trim_eq]
  rw [if_neg hsome, splitFirst_append (by decide)]
  simp only [hfield.trim_eq, hcondition]
  rw [readCondition_of_denotes hdenotes]
  rfl

/-- **What stands behind the arrow is read as it was written**: it is a field, and its first space
    is the one in front of the guard. -/
theorem exists_writeGuard {choice : Choice} (h : choice.IsWritable) :
    ∃ guard rest, writeGuard choice.guard = .ok guard ∧
      IsField (choice.destination.text.toList ++ guard.toList) ∧
      splitFirst ' ' (choice.destination.text.toList ++ guard.toList) =
        (choice.destination.text.toList, rest) ∧
      ∀ column target, readGuard column target rest = .ok choice.guard := by
  have hfield := isField_destination h.destination
  have hspace : ' ' ∉ choice.destination.text.toList := fun hmem =>
    absurd (mem_text_of_isNamed h.destination hmem).1 (by decide)
  cases hguard : choice.guard with
  | none =>
    refine ⟨"", [], rfl, ?_, ?_, fun column target => rfl⟩
    · rwa [show "".toList = [] from rfl, List.append_nil]
    · rw [show "".toList = [] from rfl, List.append_nil, splitFirst_of_not_mem hspace]
  | some guard =>
    have hwritable := h.guard guard hguard
    obtain ⟨text, htext, hdenotes⟩ := exists_describe_denotes hwritable
    have hcondition := isField_describe hwritable htext
    have hword : IsField "if".toList := isField_of_all (by decide) (by decide)
    have hwritten : (" if " ++ text).toList = ' ' :: ("if".toList ++ ' ' :: text.toList) := by
      rw [String.toList_append]
      rfl
    refine ⟨" if " ++ text, "if".toList ++ ' ' :: text.toList, ?_, ?_, ?_,
      readGuard_of_denotes hcondition hdenotes⟩
    · exact bind_eq_ok_iff.2 ⟨text, htext, rfl⟩
    · rw [hwritten]
      exact hfield.spaced (hword.spaced hcondition)
    · rw [hwritten, splitFirst_append hspace]

/-! ## A whole option

  Here the steps of the reader are gone through in its order: arrow, label and list, destination,
  guard. -/

/-- What is written behind the keyword of an option. -/
def optionText (choice : Choice) (guard : String) : List Char :=
  choice.label.toList ++ (writeKeywords choice.keywords).toList ++ [' '] ++
    '-' :: '>' :: ' ' :: (choice.destination.text.toList ++ guard.toList)

/-- **The arguments of an option are read as the choice that they were written from.** -/
theorem readOption_optionText {choice : Choice} (h : choice.IsWritable) {guard : String}
    (hguard : writeGuard choice.guard = .ok guard) (column : Nat) :
    readOption column (optionText choice guard) = .ok choice := by
  obtain ⟨_, rest, hwritten, hfield, hspace, hread⟩ := exists_writeGuard h
  cases hguard.symm.trans hwritten
  obtain ⟨label, hlabel, hlist⟩ := readLabel_written h column
  -- The last arrow is the one that was written, as there is none in the field behind it.
  have hsplit : splitLast? "->".toList (optionText choice guard) =
      some (choice.label.toList ++ (writeKeywords choice.keywords).toList ++ [' '],
        ' ' :: (choice.destination.text.toList ++ guard.toList)) := by
    refine splitLast?_arrow ?_ _
    refine List.isChain_cons.2 ⟨fun _ _ hboth => absurd hboth.1 (by decide), ?_⟩
    exact List.isChain_cons.2 ⟨fun _ _ hboth => absurd hboth.1 (by decide), hfield.arrowless⟩
  -- One blank stands behind the arrow.
  have htarget : trimLeft (' ' :: (choice.destination.text.toList ++ guard.toList)) =
      choice.destination.text.toList ++ guard.toList := by
    rw [trimLeft_cons_of_blank (by decide), trimLeft_eq_self hfield.first]
  have hsome : ¬ choice.label.toList.isEmpty = true :=
    fun hempty => h.label.1 (List.isEmpty_iff.1 hempty)
  simp only [readOption, hsplit, hlist, bind, Except.bind, hlabel]
  rw [if_neg hsome, htarget, hspace]
  simp only [readDestination_text h.destination, hread, String.ofList_toList]

/-- A choice that can be written has a line, which is the directive of its arguments. -/
theorem exists_writeOption {choice : Choice} (h : choice.IsWritable) :
    ∃ guard line, writeGuard choice.guard = .ok guard ∧ writeOption choice = .ok line ∧
      line.toList = directiveMark :: ("option".toList ++ ' ' :: optionText choice guard) ∧
      IsField (choice.destination.text.toList ++ guard.toList) := by
  obtain ⟨guard, -, hguard, hfield, -, -⟩ := exists_writeGuard h
  refine ⟨guard, _, hguard, bind_eq_ok_iff.2 ⟨guard, hguard, rfl⟩, ?_, hfield⟩
  simp [optionText, directiveMark]

/-- The arguments begin with the label, and end with the destination or the guard. -/
theorem edges_optionText {choice : Choice} (h : choice.IsWritable) {guard : String}
    (hfield : IsField (choice.destination.text.toList ++ guard.toList)) :
    optionText choice guard ≠ [] ∧
      (∀ c, (optionText choice guard).head? = some c → isBlank c = false) ∧
      ∀ c, (optionText choice guard).getLast? = some c → isBlank c = false := by
  obtain ⟨hsome, htrim⟩ := h.label
  have hlabel : optionText choice guard = choice.label.toList ++
      ((writeKeywords choice.keywords).toList ++ [' '] ++
        '-' :: '>' :: ' ' :: (choice.destination.text.toList ++ guard.toList)) := by
    simp only [optionText, List.append_assoc]
  refine ⟨?_, fun c hc => ?_, fun c hc => hfield.last c ?_⟩
  · rw [hlabel]
    exact List.append_ne_nil_of_left_ne_nil hsome _
  · rw [hlabel, List.head?_append_of_ne_nil _ hsome, ← htrim] at hc
    exact isBlank_of_head?_trim hc
  · rwa [optionText, List.getLast?_append_of_ne_nil _ (List.cons_ne_nil _ _),
      List.getLast?_cons_of_ne_nil (List.cons_ne_nil _ _),
      List.getLast?_cons_of_ne_nil (List.cons_ne_nil _ _),
      List.getLast?_cons_of_ne_nil hfield.nonempty] at hc

/-- The line of a choice says that choice. -/
theorem says_option {grammar : Grammar} (hgrammar : Keyword.option.text ∈ grammar.keywords)
    {choice : Choice} (h : choice.IsWritable) {line : String}
    (hline : writeOption choice = .ok line) : Says grammar line.toList (.option choice) := by
  obtain ⟨guard, _, hguard, hwritten, htext, hfield⟩ := exists_writeOption h
  cases hline.symm.trans hwritten
  obtain ⟨hsome, hfirst, hlast⟩ := edges_optionText h hfield
  have hkeyword : "option".toList.any isBlank = false := by decide
  have hdirective := ofLine?_directive hkeyword hsome hfirst hlast
  rw [← htext] at hdirective
  exact .option ⟨hdirective, rfl, hgrammar⟩ (readOption_optionText h hguard _)

/-! ## Line breaks

  Of the parts of a line only the label and the keywords could hold a line break, and by assumption
  they hold none. -/

/-- A character that no keyword holds, and that is no mark of a list, is not in what is written for
    keywords. -/
theorem not_mem_writeKeywords {c : Char} {keywords : List String}
    (hkeywords : ∀ keyword ∈ keywords, c ∉ keyword.toList) (hmarks : c ∉ [' ', '[', ',', ']']) :
    c ∉ (writeKeywords keywords).toList := by
  cases keywords with
  | nil => exact List.not_mem_nil
  | cons first others =>
    have hlist : c ∉ List.intercalate ", ".toList ((first :: others).map String.toList) := by
      intro hmem
      rcases mem_of_mem_list hmem with (rfl | rfl) | ⟨keyword, hkeyword, hc⟩
      · exact hmarks (by decide)
      · exact hmarks (by decide)
      · exact hkeywords keyword hkeyword hc
    rw [toList_writeKeywords]
    simp only [List.mem_cons, List.mem_append, List.not_mem_nil, or_false] at hmarks ⊢
    tauto

/-- The line of a choice holds no line breaks. -/
theorem not_mem_writeOption {choice : Choice} (h : choice.IsWritable) {line : String}
    (hline : writeOption choice = .ok line) : '\n' ∉ line.toList ∧ '\r' ∉ line.toList := by
  obtain ⟨guard, _, -, hwritten, htext, hfield⟩ := exists_writeOption h
  cases hline.symm.trans hwritten
  have hparts : ∀ c, c ∉ choice.label.toList → c ∉ (writeKeywords choice.keywords).toList →
      c ∉ choice.destination.text.toList ++ guard.toList → c ∉ "option".toList →
      c ∉ [directiveMark, ' ', '-', '>'] → c ∉ line.toList := by
    intro c hlabel hlist hfield hkeyword hmarks
    rw [htext, optionText]
    simp only [List.mem_cons, List.mem_append, List.not_mem_nil, or_false] at hfield hmarks ⊢
    tauto
  have hlist : ∀ c ∈ ['\n', '\r', ',', '['], c ∉ [' ', '[', ',', ']'] →
      c ∉ (writeKeywords choice.keywords).toList := fun c hc =>
    not_mem_writeKeywords fun keyword hmem => h.free keyword hmem c hc
  constructor
  · exact hparts '\n' h.unbroken.1 (hlist '\n' (by decide) (by decide)) hfield.unbroken.1
      (by decide) (by decide)
  · exact hparts '\r' h.unbroken.2 (hlist '\r' (by decide) (by decide)) hfield.unbroken.2
      (by decide) (by decide)

/-! ## What is read can be written

  Where a choice comes from is known (`parts_of_readOption`), so it is left to see what its parts
  can hold. -/

/-- The characters of a label and of its keywords, among which no mark of a list is. -/
theorem mem_of_readLabel {column : Nat} {text label : List Char} {keywords : List String}
    (h : readLabel column text = .ok (label, keywords)) :
    (∀ c ∈ label, c ∈ text) ∧
      ∀ keyword ∈ keywords, ∀ c ∈ keyword.toList, c ∈ text ∧ c ≠ ',' ∧ c ≠ '[' := by
  have hkept := (trimRight_isPrefix text).subset
  rcases cases_of_readLabel h with ⟨rfl, rfl, -⟩ | ⟨list, htext, hbracket, rfl⟩
  · exact ⟨fun c hc => hkept hc, nofun⟩
  · rw [htext] at hkept
    refine ⟨fun c hc => hkept (List.mem_append_left _ hc), fun keyword hkeyword c hc => ?_⟩
    obtain ⟨part, hpart, rfl⟩ := List.mem_map.1 hkeyword
    rw [String.toList_ofList] at hc
    have hin : c ∈ part := (trim_isInfix part).subset hc
    have hlist : c ∈ list := List.dropLast_subset list (mem_of_mem_splitWhere hpart hin)
    refine ⟨hkept (List.mem_append_right _ (List.mem_cons_of_mem _ hlist)), ?_, ?_⟩
    · exact of_decide_eq_false (cut_of_mem_splitWhere hpart hin)
    · rintro rfl
      exact hbracket hlist

/-- A label that could be taken for one with keywords has been. -/
theorem not_list_of_readLabel {column : Nat} {text label : List Char}
    (h : readLabel column text = .ok (label, [])) :
    ¬ ('[' ∈ trim label ∧ (trim label).getLast? = some ']') := by
  rintro ⟨hopen, hclose⟩
  rcases cases_of_readLabel h with ⟨-, rfl, hplain⟩ | ⟨list, -, -, hnil⟩
  · exact hplain ⟨(trim_isInfix _).subset hopen,
      getLast?_of_trim (trimRight_trimRight text) hclose⟩
  · exact absurd (List.map_eq_nil_iff.1 hnil.symm) (List.cons_ne_nil _ _)

/-- **A choice that was read can be written**, if its line has no line breaks. -/
theorem isWritable_of_readOption {column : Nat} {arguments : List Char} {choice : Choice}
    (h : readOption column arguments = .ok choice) (hfeed : '\n' ∉ arguments)
    (hreturn : '\r' ∉ arguments) : choice.IsWritable := by
  obtain ⟨before, after, label, hdivided, hread, hshown, -⟩ := parts_of_readOption h
  -- Label and keywords stand in front of the arrow, so they hold only characters of the line.
  have hbefore : before <+: arguments := by
    rw [(splitLast?_eq_some_iff.1 hdivided).1]
    exact List.prefix_append before _
  have hlabel : choice.label.toList = trim label := hshown ▸ String.toList_ofList
  obtain ⟨hlabels, hkeywords⟩ := mem_of_readLabel hread
  have hin : ∀ c ∈ choice.label.toList, c ∈ arguments := fun c hc =>
    hbefore.subset (hlabels c ((trim_isInfix label).subset (hlabel ▸ hc)))
  exact
    { isWellFormed_of_readOption h with
      unbroken := ⟨fun hmem => hfeed (hin _ hmem), fun hmem => hreturn (hin _ hmem)⟩
      free := by
        intro keyword hkeyword mark hmark hmem
        obtain ⟨hbefore', hcomma, hbracket⟩ := hkeywords keyword hkeyword mark hmem
        simp only [List.mem_cons, List.not_mem_nil, or_false] at hmark
        rcases hmark with rfl | rfl | rfl | rfl
        · exact hfeed (hbefore.subset hbefore')
        · exact hreturn (hbefore.subset hbefore')
        · exact hcomma rfl
        · exact hbracket rfl
      bare := by
        intro hnone
        rw [hnone] at hread
        rw [hlabel]
        exact not_list_of_readLabel hread }

/-! ## The round trip

  As for narrative lines, one direction is about any choice and the other about any line of any
  file. -/

/-- Inside a block, the line of a choice adds it to the row of options. -/
theorem takeLine_option {grammar : Grammar} {line : List Char} {choice : Choice}
    (h : Says grammar line (.option choice)) {draft : Draft} {block : OpenBlock}
    (hcurrent : draft.current = some block) (number : Nat) :
    draft.takeLine grammar number line =
      .ok (draft.continueWith { block with pending := block.pending ++ [choice] }) := by
  rw [Draft.takeLine, hcurrent]
  dsimp only
  rw [read_eq_ok_iff.2 h]
  rfl

/-- The story of a file that has one block with one option in it. -/
theorem readLines_option {grammar : Grammar} {line : List Char} {choice : Choice}
    (h : Says grammar line (.option choice)) {opener closer : List Char} {name : String}
    {directive : Directive} (hopener : Announces grammar opener (.block name directive))
    (hcloser : Says grammar closer .endBlock) (fileId : String) :
    readLines grammar fileId [opener, line, closer] =
      .ok { fileId, blocks := [{ name, nodes := [.menu [choice]], line := 1 }],
            entry := some name } := by
  have hlast : ¬ BeginsWithOption grammar [] := fun ⟨_, _, hhead, _⟩ => by cases hhead
  have hbody : Items grammar ([line] ++ []) [.menu [choice]] :=
    .menu (.cons h .nil) (List.cons_ne_nil choice []) hlast .nil
  refine readLines_eq_ok_iff.2 ⟨_, [], .block hopener hbody hcloser .nil, ?_, Nat.zero_le 1, nofun,
    rfl⟩
  exact List.pairwise_singleton _ name

/-- **Writing and reading options are inverse.** A choice that can be written is written as a line
    without line breaks that is read as the same choice, wherever it stands inside a block; and
    every choice that a line of a file is read as can be written. -/
theorem option_roundTrip :
    (∀ (grammar : Grammar) (choice : Choice), Keyword.option.text ∈ grammar.keywords →
      choice.IsWritable → ∃ line, writeOption choice = .ok line ∧
        ('\n' ∉ line.toList ∧ '\r' ∉ line.toList) ∧
        Statement.read grammar line.toList = .ok (.option choice) ∧
        (∀ (draft : Draft) (block : OpenBlock) (number : Nat), draft.current = some block →
          draft.takeLine grammar number line.toList =
            .ok (draft.continueWith { block with pending := block.pending ++ [choice] })) ∧
        ∀ (fileId : String) (opener closer : List Char) (name : String) (directive : Directive),
          Announces grammar opener (.block name directive) → Says grammar closer .endBlock →
          readLines grammar fileId [opener, line.toList, closer] =
            .ok { fileId, blocks := [{ name, nodes := [.menu [choice]], line := 1 }],
                  entry := some name }) ∧
    ∀ (grammar : Grammar) (text line : List Char) (choice : Choice), line ∈ linesOf text →
      Statement.read grammar line = .ok (.option choice) → choice.IsWritable := by
  refine ⟨fun grammar choice hgrammar h => ?_, fun grammar text line choice hline hread => ?_⟩
  · obtain ⟨_, line, -, hwritten, -, -⟩ := exists_writeOption h
    have hsays := says_option hgrammar h hwritten
    exact ⟨line, hwritten, not_mem_writeOption h hwritten, read_eq_ok_iff.2 hsays,
      fun draft block number hcurrent => takeLine_option hsays hcurrent number,
      fun fileId opener closer name directive hopener hcloser =>
        readLines_option hsays hopener hcloser fileId⟩
  · obtain ⟨hfeed, hreturn⟩ := not_mem_of_mem_linesOf hline
    cases read_eq_ok_iff.1 hread with
    | option hdirective hchoice =>
      have hsub := (arguments_isInfix hdirective.divides).subset
      exact isWritable_of_readOption hchoice (fun hmem => hfeed (hsub hmem))
        fun hmem => hreturn (hsub hmem)

/-- An option with an arrow, brackets and a comma in its label, an arrow in a keyword, and a guard
    in which a comparison follows a name that ends like the beginning of an arrow. -/
def caveChoice : Choice where
  label := "Go -> on, [up] top"
  keywords := ["@UPS", "-> a]"]
  destination := .file "maps/cave-" (some "hall")
  guard := some (.counter "oil-" .greater (-3))

def caveLine : String :=
  "@option Go -> on, [up] top [@UPS, -> a]] -> maps/cave-:hall if counter:oil- > -3"

theorem option_roundTrip_cave :
    caveChoice.IsWritable ∧ writeOption caveChoice = .ok caveLine ∧
      Statement.read {} caveLine.toList = .ok (.option caveChoice) := by
  have hline : caveLine.toList ∈ linesOf caveLine.toList := by decide +kernel
  have hchoice : readOption 9 (caveLine.toList.drop 8) = .ok caveChoice := by decide +kernel
  have hwritten : writeOption caveChoice = .ok caveLine := by decide +kernel
  obtain ⟨hfeed, hreturn⟩ := not_mem_of_mem_linesOf hline
  have hform : caveChoice.IsWritable := isWritable_of_readOption hchoice
    (fun hmem => hfeed (List.mem_of_mem_drop hmem))
    fun hmem => hreturn (List.mem_of_mem_drop hmem)
  obtain ⟨line, hcave, -, hread, -⟩ := option_roundTrip.1 {} caveChoice (by decide) hform
  rw [hwritten] at hcave
  cases hcave
  exact ⟨option_roundTrip.2 {} _ _ _ hline hread, hwritten, hread⟩

end Gamebook.Markup
