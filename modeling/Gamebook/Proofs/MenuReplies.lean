/-
  What a reply means to a menu.

  A reply can be read in four ways: as a label, as a number of the menu, as a keyword or a word of a
  list that a keyword names, and as the name of a block that an option leads to.  The ways are tried
  in this order over the whole menu, and in each of them the first option counts (`Reply.Means`).
  A reply of digits that are not all decimal has no number to be read as, and is a fault.

  * `Reply.matchOption_means`: this is what a reply does to a menu, and whatever it picks is an
    option of the menu, which is shown with the number that it stands at and can be chosen.
  * `Reply.exists_reply`: every option can be picked.  Its number may be the label of some option,
    and then picks that one; but zeros in front of a number do not change it, and labels that read
    like numbers with zeros in front of them run out.
-/
import Gamebook.Proofs.CleanedReplies
import Gamebook.Proofs.FailedActs
import Gamebook.Proofs.SessionEnd
import Mathlib.Data.List.Nodup

namespace Gamebook

open Text

/-! ## Menus as they are shown

  The number of an option is the one that is printed in front of its label, and so what the reader
  sees is a part of the statement. -/

/-- The menu shows a label with a number: the line of the label is the one with this number. -/
def Shows (labels : List String) (number : Nat) (label : String) : Prop :=
  ∃ before after, labels = before ++ label :: after ∧ number = before.length + 1 ∧
    menuText labels = "\n" ++ numberedLines 1 before ++
      (natural number ++ ") " ++ label ++ "\n") ++ numberedLines (number + 1) after ++ "\n"

theorem numberedLines_append (number : Nat) (before after : List String) :
    numberedLines number (before ++ after) =
      numberedLines number before ++ numberedLines (number + before.length) after := by
  induction before generalizing number with
  | nil => exact String.empty_append.symm
  | cons label before ih =>
    rw [List.cons_append, numberedLines, numberedLines, ih, List.length_cons,
      Nat.add_right_comm, Nat.add_assoc]
    simp only [String.append_assoc]

/-- **A menu shows its labels with the numbers that they stand at.** -/
theorem shows_of_getElem? {labels : List String} {index : Nat} {label : String}
    (h : labels[index]? = some label) : Shows labels (index + 1) label := by
  obtain ⟨hbound, rfl⟩ := List.getElem?_eq_some_iff.1 h
  have hsplit : labels = labels.take index ++ labels[index] :: labels.drop (index + 1) := by
    rw [List.getElem_cons_drop, List.take_append_drop]
  have hlength : (labels.take index).length = index :=
    List.length_take_of_le (Nat.le_of_lt hbound)
  refine ⟨labels.take index, labels.drop (index + 1), hsplit, by rw [hlength], ?_⟩
  have hsome : ¬ labels.isEmpty = true := by
    rw [List.isEmpty_iff]
    rintro rfl
    exact absurd hbound (Nat.not_lt_zero index)
  have hlines := congrArg (numberedLines 1) hsplit
  rw [numberedLines_append, numberedLines, hlength, Nat.add_comm 1 index] at hlines
  rw [menuText, if_neg hsome, hlines]
  simp only [String.append_assoc]

namespace Reply

variable {choices : List Choice} {cleaned : String}

/-! ## Readings

  Each reading is a property of one option, and the first option that has it counts.  A reading of a
  later kind is looked for only if no option of the menu has one of an earlier kind. -/

/-- The first of the choices that satisfies `p` stands at this index. -/
structure FirstThat (p : Choice → Prop) (choices : List Choice) (index : Nat) : Prop where
  found : ∃ choice, choices[index]? = some choice ∧ p choice
  first : ∀ (earlier : Nat) (choice : Choice), earlier < index →
    choices[earlier]? = some choice → ¬ p choice

/-- The label reads like the reply. -/
def HasLabel (cleaned : String) (choice : Choice) : Prop := sanitize choice.label = cleaned

/-- The digits of the reply are decimal, and spell a number of a menu of so many options. -/
def Counts (cleaned : String) (count number : Nat) : Prop :=
  (∀ c ∈ cleaned.toList, isDecimal c = true) ∧ digitsValue cleaned.toList = number ∧
    1 ≤ number ∧ number ≤ count

/-- The reply is a word of the list that the keyword names, or else a part of the keyword. -/
def Fits (cleaned keyword : String) : Prop :=
  (∃ name, keyword = "@" ++ name ∧ cleaned ∈ WordList.words name) ∨
    (¬ ∃ name, keyword = "@" ++ name) ∧ cleaned.toList <:+: (sanitize keyword).toList

/-- A keyword of the option fits the reply. -/
def HasKeyword (cleaned : String) (choice : Choice) : Prop :=
  ∃ keyword ∈ choice.keywords, Fits cleaned keyword

/-- The option leads to a block whose name reads like the reply. -/
def LeadsTo (cleaned : String) (choice : Choice) : Prop :=
  ∃ name, sanitize name = cleaned ∧
    (choice.destination = .block name ∨ ∃ file, choice.destination = .file file (some name))

/-- What a cleaned reply means to a menu: the index of an option, or none. Of the four readings one
    counts only if there is none of the readings before it. -/
inductive Means (cleaned : String) (choices : List Choice) : Option Nat → Prop
  | blank (hblank : cleaned = "") : Means cleaned choices none
  | label {index : Nat} (hsome : cleaned ≠ "")
      (hfirst : FirstThat (HasLabel cleaned) choices index) : Means cleaned choices (some index)
  | number {number : Nat} (hsome : cleaned ≠ "")
      (hlabel : ∀ choice ∈ choices, ¬ HasLabel cleaned choice)
      (hcounts : Counts cleaned choices.length number) : Means cleaned choices (some (number - 1))
  | keyword {index : Nat} (hsome : cleaned ≠ "")
      (hlabel : ∀ choice ∈ choices, ¬ HasLabel cleaned choice)
      (hnumber : ∀ number, ¬ Counts cleaned choices.length number)
      (hfirst : FirstThat (HasKeyword cleaned) choices index) : Means cleaned choices (some index)
  | block {index : Nat} (hsome : cleaned ≠ "")
      (hlabel : ∀ choice ∈ choices, ¬ HasLabel cleaned choice)
      (hnumber : ∀ number, ¬ Counts cleaned choices.length number)
      (hkeyword : ∀ choice ∈ choices, ¬ HasKeyword cleaned choice)
      (hfirst : FirstThat (LeadsTo cleaned) choices index) : Means cleaned choices (some index)
  | nothing (hsome : cleaned ≠ "")
      (hlabel : ∀ choice ∈ choices, ¬ HasLabel cleaned choice)
      (hnumber : ∀ number, ¬ Counts cleaned choices.length number)
      (hkeyword : ∀ choice ∈ choices, ¬ HasKeyword cleaned choice)
      (hblock : ∀ choice ∈ choices, ¬ LeadsTo cleaned choice) : Means cleaned choices none

/-! ## The tests of an option

  The program tests an option by computing; these lemmas say that the tests decide the properties.
-/

/-- The test of a keyword: a list if it begins with the mark of one, and a phrase otherwise. -/
theorem matchesKeyword_iff {keyword : String} :
    matchesKeyword cleaned keyword = true ↔ Fits cleaned keyword := by
  have hmark : ∀ name : List Char,
      keyword.toList = '@' :: name ↔ keyword = "@" ++ String.ofList name := by
    intro name
    have hname : (String.ofList name).toList = name := String.toList_ofList
    rw [← String.toList_inj, String.toList_append, hname]
    exact Iff.rfl
  rw [matchesKeyword, Fits]
  split
  next name hname =>
    have hkeyword := (hmark name).1 hname
    rw [List.contains_iff_mem]
    constructor
    · exact fun hword => .inl ⟨String.ofList name, hkeyword, hword⟩
    · rintro (⟨other, hother, hword⟩ | ⟨hplain, -⟩)
      · rw [hkeyword, String.append_right_inj] at hother
        rw [hother]
        exact hword
      · exact absurd ⟨_, hkeyword⟩ hplain
  next hplain =>
    have hnone : ¬ ∃ name, keyword = "@" ++ name := by
      rintro ⟨name, hname⟩
      refine hplain name.toList ((hmark name.toList).2 ?_)
      rw [String.ofList_toList]
      exact hname
    rw [indexOf?_isSome_iff]
    constructor
    · exact fun hpart => .inr ⟨hnone, hpart⟩
    · rintro (⟨name, hname, -⟩ | ⟨-, hpart⟩)
      · exact absurd ⟨name, hname⟩ hnone
      · exact hpart

theorem hasKeyword_iff {choice : Choice} :
    choice.keywords.any (matchesKeyword cleaned) = true ↔ HasKeyword cleaned choice := by
  rw [List.any_eq_true, HasKeyword]
  exact exists_congr fun keyword => and_congr_right fun _ => matchesKeyword_iff

/-- An option leads to a block with a name, if it is not the empty name of a file's entry. -/
theorem leadsTo_iff (hsome : cleaned ≠ "") {choice : Choice} :
    (blockName? choice == some cleaned) = true ↔ LeadsTo cleaned choice := by
  have hempty : sanitize "" = "" := rfl
  rw [beq_iff_eq, blockName?, LeadsTo]
  cases hdestination : choice.destination with
  | block name =>
    simp only [Option.some_inj, Destination.block.injEq, reduceCtorEq, exists_false, or_false]
    exact ⟨fun h => ⟨name, h, rfl⟩, fun ⟨other, h, hother⟩ => hother ▸ h⟩
  | file id target =>
    cases target with
    | none => simp
    | some name =>
      dsimp only
      split
      -- An empty name reads like an empty reply, and that means nothing to a menu.
      next hnone =>
        rw [String.isEmpty_iff.1 hnone]
        refine ⟨nofun, ?_⟩
        rintro ⟨other, hother, hblock | ⟨file, hfile⟩⟩
        · cases hblock
        · cases hfile
          exact absurd (hother.symm.trans hempty) hsome
      next =>
        simp only [Option.some_inj, Destination.file.injEq, reduceCtorEq, false_or]
        exact ⟨fun h => ⟨name, h, id, rfl, rfl⟩, fun ⟨other, h, _, _, hother⟩ => hother ▸ h⟩
  | unknown form => simp

/-! ## The first option

  Searching for the first option that passes a test finds the first that has the property, or none
  has it. -/

section FirstThat

variable {p : Choice → Prop} {test : Choice → Bool}

/-- What is found is the first. -/
theorem findIdx?_eq_some_iff_firstThat (htest : ∀ choice, test choice = true ↔ p choice)
    {index : Nat} : choices.findIdx? test = some index ↔ FirstThat p choices index := by
  rw [List.findIdx?_eq_some_iff_getElem]
  constructor
  · rintro ⟨hbound, hfound, hfirst⟩
    refine ⟨⟨_, List.getElem?_eq_getElem hbound, (htest _).1 hfound⟩, ?_⟩
    intro earlier choice hearlier hchoice hholds
    obtain ⟨_, rfl⟩ := List.getElem?_eq_some_iff.1 hchoice
    exact hfirst earlier hearlier ((htest _).2 hholds)
  · rintro ⟨⟨choice, hchoice, hp⟩, hfirst⟩
    obtain ⟨hbound, rfl⟩ := List.getElem?_eq_some_iff.1 hchoice
    refine ⟨hbound, (htest _).2 hp, fun earlier hearlier hfound => ?_⟩
    exact hfirst earlier _ hearlier
      (List.getElem?_eq_getElem (Nat.lt_trans hearlier hbound)) ((htest _).1 hfound)

/-- Where nothing is found there is none. -/
theorem findIdx?_eq_none_iff_not (htest : ∀ choice, test choice = true ↔ p choice) :
    choices.findIdx? test = none ↔ ∀ choice ∈ choices, ¬ p choice := by
  rw [List.findIdx?_eq_none_iff]
  refine forall₂_congr fun choice _ => ?_
  rw [← htest, Bool.not_eq_true]

end FirstThat

/-! ## Numbers of a menu

  A reply that looks like digits is read as a number, and counts if the menu has so many options. -/

theorem isDigitLike_of_isDecimal {c : Char} (h : isDecimal c = true) : isDigitLike c = true := by
  rw [isDigitLike, h, Bool.true_or]

/-- A number of the menu is taken for one. -/
theorem menuNumber?_of_counts {count number : Nat} (h : Counts cleaned count number) :
    menuNumber? cleaned count = .ok (some (number - 1)) := by
  obtain ⟨hdigits, rfl, hlow, hhigh⟩ := h
  have hsome : cleaned.toList ≠ [] := by
    intro hnil
    rw [hnil] at hlow
    exact absurd hlow (by decide)
  have hread : readNatural? cleaned.toList = some (digitsValue cleaned.toList) := by
    rw [readNatural?, List.isEmpty_eq_false_iff.2 hsome, List.all_eq_true.2 hdigits]
    rfl
  rw [menuNumber?, List.all_eq_true.2 fun c hc => isDigitLike_of_isDecimal (hdigits c hc),
    if_pos rfl, hread]
  dsimp only
  rw [if_pos]
  rw [Bool.and_eq_true, decide_eq_true_iff, decide_eq_true_iff]
  exact ⟨hlow, hhigh⟩

/-- Only a number of the menu is taken for one. -/
theorem counts_of_menuNumber? {count index : Nat}
    (h : menuNumber? cleaned count = .ok (some index)) : Counts cleaned count (index + 1) := by
  rw [menuNumber?] at h
  split at h
  next =>
    cases hread : readNatural? cleaned.toList with
    | none =>
      rw [hread] at h
      cases h
    | some number =>
      rw [hread] at h
      dsimp only at h
      split at h
      -- It lies in the menu, and its digits are decimal, for otherwise it would not have been read.
      next hrange =>
        rw [Bool.and_eq_true, decide_eq_true_iff, decide_eq_true_iff] at hrange
        rw [readNatural?] at hread
        split at hread
        next hdigits =>
          cases hread
          cases h
          refine ⟨List.all_eq_true.1 (Bool.and_eq_true_iff.1 hdigits).2, ?_, ?_, ?_⟩
          all_goals omega
        next => cases hread
      next => cases h
  next => cases h

/-! ## What a reply picks

  The search of the program goes through the stages in the same order as `Means` does.  So one
  direction follows its branches, and the other one runs it on the premises of each rule. -/

variable {reply : String}

theorem hasLabel_iff (choice : Choice) :
    (sanitize choice.label == cleaned) = true ↔ HasLabel cleaned choice := beq_iff_eq

/-- **What a reply picks is what it means.** -/
theorem means_of_matchOption {result : Option Nat} (h : matchOption reply choices = .ok result) :
    Means (sanitize reply) choices result := by
  simp only [matchOption] at h
  split at h
  next hempty =>
    cases h
    exact .blank (String.isEmpty_iff.1 hempty)
  next hempty =>
    have hsome : sanitize reply ≠ "" := fun hblank => hempty (String.isEmpty_iff.2 hblank)
    split at h
    next index hlabel =>
      cases h
      exact .label hsome ((findIdx?_eq_some_iff_firstThat hasLabel_iff).1 hlabel)
    next hlabel =>
      have hlabels := (findIdx?_eq_none_iff_not hasLabel_iff).1 hlabel
      split at h
      next => cases h
      next index hnumber =>
        cases h
        exact .number hsome hlabels (counts_of_menuNumber? hnumber)
      next hnumber =>
        have hnumbers : ∀ number, ¬ Counts (sanitize reply) choices.length number := by
          intro number hcounts
          rw [menuNumber?_of_counts hcounts] at hnumber
          cases hnumber
        cases hkeyword : choices.findIdx? fun choice =>
            choice.keywords.any (matchesKeyword (sanitize reply)) with
        | some index =>
          rw [hkeyword] at h
          cases h
          exact .keyword hsome hlabels hnumbers
            ((findIdx?_eq_some_iff_firstThat fun _ => hasKeyword_iff).1 hkeyword)
        | none =>
          have hkeywords := (findIdx?_eq_none_iff_not fun _ => hasKeyword_iff).1 hkeyword
          rw [hkeyword, Option.none_or] at h
          cases hblock : choices.findIdx? fun choice =>
              blockName? choice == some (sanitize reply) with
          | some index =>
            rw [hblock] at h
            cases h
            exact .block hsome hlabels hnumbers hkeywords
              ((findIdx?_eq_some_iff_firstThat fun _ => leadsTo_iff hsome).1 hblock)
          | none =>
            rw [hblock] at h
            cases h
            exact .nothing hsome hlabels hnumbers hkeywords
              ((findIdx?_eq_none_iff_not fun _ => leadsTo_iff hsome).1 hblock)

/-- A reply that does not baffle, is no label and no number of the menu, has no place in it. -/
theorem menuNumber?_of_not_counts (hsome : sanitize reply ≠ "")
    (hlabel : ∀ choice ∈ choices, ¬ HasLabel (sanitize reply) choice)
    (hnumber : ∀ number, ¬ Counts (sanitize reply) choices.length number)
    (hbaffles : ¬ Baffles choices reply) :
    menuNumber? (sanitize reply) choices.length = .ok none := by
  obtain ⟨place, hplace⟩ := exists_menuNumber?
    (fun hnil => hsome (String.toList_eq_nil_iff.1 hnil))
    (fun hodd => hbaffles ⟨hlabel, hodd⟩) choices.length
  cases place with
  | none => exact hplace
  | some index => exact absurd (counts_of_menuNumber? hplace) (hnumber (index + 1))

/-- **What a reply means it picks**, unless it baffles. -/
theorem matchOption_of_means {result : Option Nat} (h : Means (sanitize reply) choices result)
    (hbaffles : ¬ Baffles choices reply) : matchOption reply choices = .ok result := by
  have hempty : sanitize reply ≠ "" → ¬ (sanitize reply).isEmpty = true :=
    fun hsome hblank => hsome (String.isEmpty_iff.1 hblank)
  cases h with
  | blank hblank => simp only [matchOption, String.isEmpty_iff.2 hblank, if_true]
  | label hsome hfirst =>
    have hlabel := (findIdx?_eq_some_iff_firstThat hasLabel_iff).2 hfirst
    simp only [matchOption, if_neg (hempty hsome), hlabel]
  | number hsome hlabel hcounts =>
    have hlabel := (findIdx?_eq_none_iff_not hasLabel_iff).2 hlabel
    simp only [matchOption, if_neg (hempty hsome), hlabel, menuNumber?_of_counts hcounts]
  | keyword hsome hlabel hnumber hfirst =>
    have hplace := menuNumber?_of_not_counts hsome hlabel hnumber hbaffles
    have hlabel := (findIdx?_eq_none_iff_not hasLabel_iff).2 hlabel
    have hkeyword := (findIdx?_eq_some_iff_firstThat fun _ => hasKeyword_iff).2 hfirst
    simp only [matchOption, if_neg (hempty hsome), hlabel, hplace, hkeyword, Option.some_or]
  | block hsome hlabel hnumber hkeyword hfirst =>
    have hplace := menuNumber?_of_not_counts hsome hlabel hnumber hbaffles
    have hlabel := (findIdx?_eq_none_iff_not hasLabel_iff).2 hlabel
    have hkeyword := (findIdx?_eq_none_iff_not fun _ => hasKeyword_iff).2 hkeyword
    have hblock := (findIdx?_eq_some_iff_firstThat fun _ => leadsTo_iff hsome).2 hfirst
    simp only [matchOption, if_neg (hempty hsome), hlabel, hplace, hkeyword, hblock,
      Option.none_or]
  | nothing hsome hlabel hnumber hkeyword hblock =>
    have hplace := menuNumber?_of_not_counts hsome hlabel hnumber hbaffles
    have hlabel := (findIdx?_eq_none_iff_not hasLabel_iff).2 hlabel
    have hkeyword := (findIdx?_eq_none_iff_not fun _ => hasKeyword_iff).2 hkeyword
    have hblock := (findIdx?_eq_none_iff_not fun _ => leadsTo_iff hsome).2 hblock
    simp only [matchOption, if_neg (hempty hsome), hlabel, hplace, hkeyword, hblock,
      Option.none_or]

/-- A reply picks something or nothing just if it does not baffle. -/
theorem matchOption_eq_ok_iff {result : Option Nat} :
    matchOption reply choices = .ok result ↔
      ¬ Baffles choices reply ∧ Means (sanitize reply) choices result := by
  refine ⟨fun h => ⟨fun hbaffles => ?_, means_of_matchOption h⟩,
    fun ⟨hbaffles, hmeans⟩ => matchOption_of_means hmeans hbaffles⟩
  rw [matchOption_of_baffles hbaffles] at h
  cases h

/-- There is a fault just if the reply baffles, and it names the reply. -/
theorem matchOption_eq_error_iff {fault : Fault} :
    matchOption reply choices = .error fault ↔
      Baffles choices reply ∧ fault = .notDecimal (sanitize reply) := by
  by_cases hbaffles : Baffles choices reply
  · rw [matchOption_of_baffles hbaffles, Except.error.injEq, eq_comm]
    exact (and_iff_right hbaffles).symm
  · obtain ⟨index, hindex⟩ := exists_matchOption hbaffles
    rw [hindex]
    exact ⟨nofun, fun h => absurd h.1 hbaffles⟩

/-- What is meant is an option of the menu. -/
theorem Means.exists_choice {result : Option Nat} (h : Means cleaned choices result) {index : Nat}
    (hresult : result = some index) : ∃ choice, choices[index]? = some choice := by
  have hfound : ∀ {p}, FirstThat p choices index → ∃ choice, choices[index]? = some choice :=
    fun hfirst => hfirst.found.imp fun _ => And.left
  cases h with
  | blank => cases hresult
  | nothing => cases hresult
  | label _ hfirst | keyword _ _ _ hfirst | block _ _ _ _ hfirst =>
    cases hresult
    exact hfound hfirst
  | number _ _ hcounts =>
    cases hresult
    obtain ⟨-, -, hlow, hhigh⟩ := hcounts
    exact ⟨_, List.getElem?_eq_getElem (by omega)⟩

/-- An option of a menu that waits for a choice can be chosen. -/
theorem not_refused_of_getElem? {index : Nat} {choice : Choice} (h : choices[index]? = some choice)
    {play : Play} {place : Place} (hstatus : play.status = .awaitingChoice place choices) :
    play.Admits (.index index) choice ∧
      ∀ error, (play.choose (.index index)).2 ≠ some (.refused error) := by
  have hadmits : play.Admits (.index index) choice :=
    ⟨place, choices, index, hstatus, rfl, Int.natCast_nonneg index, h⟩
  exact ⟨hadmits, fun error hrefused =>
    (Play.failure_choose_iff play (.index index)).1 ⟨error, hrefused⟩ ⟨choice, hadmits⟩⟩

/-- **What a reply does to a menu.** It picks what it means, whatever the menu holds, unless it
    baffles, and then there is a fault. What it picks is an option of the menu, shown with the
    number that it stands at, and is not refused while the menu waits for a choice. -/
theorem matchOption_means (reply : String) (choices : List Choice) :
    (∀ result, matchOption reply choices = .ok result ↔
      ¬ Baffles choices reply ∧ Means (sanitize reply) choices result) ∧
    (∀ fault, matchOption reply choices = .error fault ↔
      Baffles choices reply ∧ fault = .notDecimal (sanitize reply)) ∧
    ∀ index, matchOption reply choices = .ok (some index) →
      ∃ choice, choices[index]? = some choice ∧
        Shows (choices.map (·.label)) (index + 1) choice.label ∧
        ∀ (play : Play) (place : Place), play.status = .awaitingChoice place choices →
          play.Admits (.index index) choice ∧
            ∀ error, (play.choose (.index index)).2 ≠ some (.refused error) := by
  refine ⟨fun _ => matchOption_eq_ok_iff, fun _ => matchOption_eq_error_iff, fun index h => ?_⟩
  obtain ⟨choice, hchoice⟩ := (means_of_matchOption h).exists_choice rfl
  have hlabel : (choices.map (·.label))[index]? = some choice.label := by
    rw [List.getElem?_map, hchoice]
    rfl
  exact ⟨choice, hchoice, shows_of_getElem? hlabel,
    fun play place hstatus => not_refused_of_getElem? hchoice hstatus⟩

/-- A shelf of books, one called like the number of another. -/
def shelf : List Choice :=
  [⟨"Take 1984", .block "orwell", none, []⟩, ⟨"3", .block "three", none, ["@RETURNS"]⟩,
    ⟨"Go on", .file "hall.txt" (some "hall"), none, ["go away"]⟩]

/-- The book in the middle has the label `3`, but `(03)` is cleaned to `03`, which is no label; as a
    number it is three, and picks the third. -/
theorem matchOption_means_shelf :
    matchOption "(03)" shelf = .ok (some 2) ∧ Means (sanitize "(03)") shelf (some 2) ∧
      Shows ["Take 1984", "3", "Go on"] 3 "Go on" := by
  have hpicks : matchOption "(03)" shelf = .ok (some 2) := by decide +kernel
  obtain ⟨hmeans, -, hshown⟩ := matchOption_means "(03)" shelf
  obtain ⟨choice, hchoice, hshows, -⟩ := hshown 2 hpicks
  cases hchoice
  exact ⟨hpicks, ((hmeans (some 2)).1 hpicks).2, hshows⟩

/-! ## A reply for every option

  The number of an option does not always pick it: another option may have the number for its label.
  With zeros in front the number stays the same and the text changes, so among enough of these texts
  there is one that is no label. -/

/-- The number with so many zeros in front. -/
def paddedNumber (zeros number : Nat) : String :=
  String.ofList (List.replicate zeros '0' ++ writeNatural number)

theorem toList_paddedNumber (zeros number : Nat) :
    (paddedNumber zeros number).toList = List.replicate zeros '0' ++ writeNatural number :=
  String.toList_ofList

theorem paddedNumber_ne_nil (zeros number : Nat) : (paddedNumber zeros number).toList ≠ [] := by
  rw [toList_paddedNumber]
  exact List.append_ne_nil_of_right_ne_nil _ (writeNatural_ne_nil number)

/-- It consists of digits of ASCII. -/
theorem isDigit_of_mem_paddedNumber {zeros number : Nat} {c : Char}
    (h : c ∈ (paddedNumber zeros number).toList) : c.isDigit = true := by
  rw [toList_paddedNumber] at h
  rcases List.mem_append.1 h with hzero | hdigit
  · rw [List.eq_of_mem_replicate hzero]
    rfl
  · exact isDigit_of_mem_writeNatural hdigit

/-- Zeros in front of a number do not change it. -/
theorem digitsValue_paddedNumber (zeros number : Nat) :
    digitsValue (paddedNumber zeros number).toList = number := by
  rw [toList_paddedNumber]
  induction zeros with
  | zero => exact digitsValue_writeNatural number
  | succ zeros ih => exact ih

/-- Digits are clean. -/
theorem clean_of_digits {digits : List Char} (hsome : digits ≠ [])
    (hdigits : ∀ c ∈ digits, c.isDigit = true) : clean digits = digits := by
  -- All capitals stand behind the digits.
  have hcapitals : ∀ run ∈ allCapitalRuns, 57 < run.first := by decide +kernel
  have hrange : ∀ c ∈ digits, 48 ≤ c.toNat ∧ c.toNat ≤ 57 := fun c hc =>
    Char.isDigit_iff_toNat.1 (hdigits c hc)
  have hspace : ' ' ∉ digits := fun hmem => absurd (hdigits ' ' hmem) (by decide)
  refine clean_of_isPhrase (.inr (IsPhrase.of_word hsome hspace).1) (fun c hc => ?_) fun c hc => ?_
  · exact isKept_iff.2 (.inl (inRuns_iff.2 ⟨(48, 57), List.mem_cons_self, hrange c hc⟩))
  · refine List.any_eq_false.2 fun run hrun hcovers => ?_
    have hfirst := (CapitalRun.covers_iff.1 hcovers).1.1
    have hlast := (hrange c hc).2
    have hcapital := hcapitals run hrun
    omega

theorem sanitize_paddedNumber (zeros number : Nat) :
    sanitize (paddedNumber zeros number) = paddedNumber zeros number := by
  rw [← String.toList_inj, toList_sanitize]
  exact clean_of_digits (paddedNumber_ne_nil zeros number) fun c => isDigit_of_mem_paddedNumber

/-- Each of some texts differs from the number with some zeros in front: there are more ways to put
    them than texts. -/
theorem exists_paddedNumber (texts : List String) (number : Nat) :
    ∃ zeros ≤ texts.length, paddedNumber zeros number ∉ texts := by
  -- Numbers with more zeros are longer, so these are different texts, and one more than there are.
  by_contra hall
  have hsubset : (List.range (texts.length + 1)).map (paddedNumber · number) ⊆ texts := by
    intro text htext
    obtain ⟨zeros, hzeros, rfl⟩ := List.mem_map.1 htext
    by_contra hnot
    exact hall ⟨zeros, Nat.lt_succ_iff.1 (List.mem_range.1 hzeros), hnot⟩
  have hnodup : ((List.range (texts.length + 1)).map (paddedNumber · number)).Nodup := by
    refine List.Nodup.map (fun zeros more hsame => ?_) List.nodup_range
    have hlength := congrArg (·.toList.length) hsame
    simp only [toList_paddedNumber, List.length_append, List.length_replicate] at hlength
    omega
  have hlength := hnodup.length_le_of_subset hsubset
  rw [List.length_map, List.length_range] at hlength
  exact absurd hlength (Nat.not_succ_le_self texts.length)

/-- A number of the menu, padded so that it is no label, picks the option that stands there. -/
theorem matchOption_paddedNumber {zeros index : Nat} (hindex : index < choices.length)
    (hfresh : paddedNumber zeros (index + 1) ∉ choices.map (sanitize ·.label)) :
    matchOption (paddedNumber zeros (index + 1)) choices = .ok (some index) := by
  have hclean := sanitize_paddedNumber zeros (index + 1)
  have hdecimal : ∀ c ∈ (paddedNumber zeros (index + 1)).toList, isDecimal c = true :=
    fun c hc => isDecimal_of_isDigit (isDigit_of_mem_paddedNumber hc)
  have hmeans : Means (paddedNumber zeros (index + 1)) choices (some index) := by
    refine @Means.number _ _ (index + 1) (fun hblank => ?_) (fun choice hmem halike => ?_) ?_
    · exact paddedNumber_ne_nil zeros (index + 1) (String.toList_eq_nil_iff.2 hblank)
    · exact hfresh (halike ▸ List.mem_map_of_mem hmem)
    · exact ⟨hdecimal, digitsValue_paddedNumber zeros (index + 1), index.succ_pos, hindex⟩
  refine matchOption_of_means (hclean.symm ▸ hmeans) fun hbaffles => ?_
  obtain ⟨c, hc, hodd⟩ := hbaffles.2.2
  rw [hclean] at hc
  rw [hdecimal c hc] at hodd
  cases hodd

/-- **Every option of a menu can be picked**, whatever its label, its keywords and its destination
    are, and whatever the labels of the others. The reply is the number of the option with zeros in
    front, no more of them than the menu has options, and does not leave the story. -/
theorem exists_reply {choices : List Choice} {index : Nat} (h : index < choices.length) :
    ∃ zeros ≤ choices.length,
      isExit (paddedNumber zeros (index + 1)) = false ∧
        matchOption (paddedNumber zeros (index + 1)) choices = .ok (some index) := by
  obtain ⟨zeros, hzeros, hfresh⟩ :=
    exists_paddedNumber (choices.map (sanitize ·.label)) (index + 1)
  rw [List.length_map] at hzeros
  refine ⟨zeros, hzeros, not_isExit_of_digits fun c hc => ?_,
    matchOption_paddedNumber h hfresh⟩
  rw [sanitize_paddedNumber] at hc
  exact isDigitLike_of_isDecimal (isDecimal_of_isDigit (isDigit_of_mem_paddedNumber hc))

/-- The first number is a label of the menu, with and without a zero in front. -/
def countedChoices : List Choice :=
  [⟨"?", .block "silence", none, []⟩, ⟨"1", .block "one", none, []⟩, ⟨"01", .block "two", none, []⟩]

/-- The reply `1` picks the second option, which has that label; zeros in front help the first one.
    -/
theorem exists_reply_counted :
    matchOption "1" countedChoices = .ok (some 1) ∧ 0 < countedChoices.length ∧
      ∃ zeros ≤ countedChoices.length, isExit (paddedNumber zeros 1) = false ∧
        matchOption (paddedNumber zeros 1) countedChoices = .ok (some 0) :=
  ⟨by decide +kernel, by decide, exists_reply (by decide : 0 < countedChoices.length)⟩

end Reply
end Gamebook
