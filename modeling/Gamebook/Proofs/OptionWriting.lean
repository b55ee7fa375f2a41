/-
  Options as they are written.

  An option is written as its label, its keywords in brackets, an arrow, its destination, and its
  guard behind the word `if`.  The label may hold arrows, brackets and commas, since the reader
  takes a line apart from behind: it looks for the last arrow, and for the last bracket in front of
  that.  So what is to be shown is that nothing written further on holds one of these marks.

  1. **Fields**: what is written behind the arrow.  A name may end with the first half of an arrow,
     and a comparison may begin with the second half, but there is always a blank between the two:
     fields are put together where no arrow comes about (`IsField.append`, `IsField.spaced`).

  2. **The line**: `writeOption` writes a choice that can be written (`Choice.IsWritable`) as a line
     without line breaks, behind whose last arrow there is a field.
-/
import Gamebook.Proofs.StoryShape

namespace Gamebook

open Markup Text

/-- The choice can be written as an option: it is well formed, it holds no line breaks, its keywords
    hold none of the marks of a list, and its label does not end like a list when there is none. -/
structure Choice.IsWritable (choice : Choice) : Prop extends choice.IsWellFormed where
  unbroken : '\n' ∉ choice.label.toList ∧ '\r' ∉ choice.label.toList
  free : ∀ keyword ∈ choice.keywords, ∀ mark ∈ ['\n', '\r', ',', '['], mark ∉ keyword.toList
  bare : choice.keywords = [] →
    ¬ ('[' ∈ choice.label.toList ∧ choice.label.toList.getLast? = some ']')

namespace Markup

/-! ## Fields

  The last arrow must be the one in front of the destination.  An arrow has two characters, so it
  can come about where two texts meet that hold none; the lemmas on putting fields together say when
  it does not. -/

/-- No arrow is in the text. -/
def IsArrowless (text : List Char) : Prop := text.IsChain fun c next => ¬ (c = '-' ∧ next = '>')

/-- A text that lacks one half of the arrow holds none. -/
theorem isArrowless_of_not_mem {text : List Char} (h : '-' ∉ text ∨ '>' ∉ text) :
    IsArrowless text := by
  refine (List.pairwise_of_forall_mem_list fun c hc next hnext hboth => ?_).isChain
  obtain ⟨rfl, rfl⟩ := hboth
  exact h.elim (· hc) (· hnext)

/-- A text without arrows is divided at none. -/
theorem splitLast?_of_isArrowless {text : List Char} (h : IsArrowless text) :
    splitLast? "->".toList text = none := by
  induction text with
  | nil => rfl
  | cons c rest ih =>
    obtain ⟨hnext, hrest⟩ := List.isChain_cons.1 h
    have hpre : ¬ "->".toList.isPrefixOf (c :: rest) = true := by
      intro hpre
      obtain ⟨hc, hothers⟩ := List.cons_prefix_cons.1 (List.isPrefixOf_iff_prefix.1 hpre)
      exact hnext '>' (head?_of_isPrefix hothers rfl) ⟨hc.symm, rfl⟩
    rw [splitLast?, ih hrest]
    dsimp only
    rw [if_neg hpre]

/-- Behind the last arrow there is a text without arrows, which no arrow begins within. -/
theorem splitLast?_arrow {after : List Char} (h : IsArrowless ('>' :: after)) (before : List Char) :
    splitLast? "->".toList (before ++ '-' :: '>' :: after) = some (before, after) := by
  show splitLast? ['-', '>'] _ = _
  exact splitLast?_eq_some_iff.2 ⟨rfl, splitLast?_of_isArrowless h⟩

/-- A text as it may stand behind the arrow of an option: no blank stands at either end of it, and
    neither an arrow nor a line break is in it. -/
structure IsField (text : List Char) : Prop where
  nonempty : text ≠ []
  first : ∀ c, text.head? = some c → isBlank c = false
  last : ∀ c, text.getLast? = some c → isBlank c = false
  arrowless : IsArrowless text
  unbroken : '\n' ∉ text ∧ '\r' ∉ text

theorem IsField.trim_eq {text : List Char} (h : IsField text) : trim text = text :=
  trim_eq_self h.first h.last

/-- A word is a field. -/
theorem isField_of_word {text : List Char} (hsome : text ≠ [])
    (hword : ∀ c ∈ text, isBlank c = false) (hmark : '-' ∉ text ∨ '>' ∉ text) :
    IsField text where
  nonempty := hsome
  first c hc := hword c (List.mem_of_head? hc)
  last c hc := hword c (List.mem_of_getLast? hc)
  arrowless := isArrowless_of_not_mem hmark
  unbroken := ⟨fun hmem => absurd (hword _ hmem) (by decide),
    fun hmem => absurd (hword _ hmem) (by decide)⟩

/-- A text that is written out, without blanks and without the first half of an arrow. -/
theorem isField_of_all {text : List Char} (hsome : text ≠ [])
    (h : text.all (fun c => !isBlank c && c != '-') = true) : IsField text := by
  have hall : ∀ c ∈ text, isBlank c = false ∧ c ≠ '-' := fun c hc => by
    simpa using List.all_eq_true.1 h c hc
  exact isField_of_word hsome (fun c hc => (hall c hc).1) (.inl fun hmem => (hall _ hmem).2 rfl)

/-- Fields stand next to each other if no arrow comes about between them. -/
theorem IsField.append {text next : List Char} (h : IsField text) (hnext : IsField next)
    (hjoint : text.getLast? ≠ some '-' ∨ next.head? ≠ some '>') : IsField (text ++ next) where
  nonempty := List.append_ne_nil_of_left_ne_nil h.nonempty next
  first c hc := h.first c (by rwa [List.head?_append_of_ne_nil text h.nonempty] at hc)
  last c hc := hnext.last c (by rwa [List.getLast?_append_of_ne_nil text hnext.nonempty] at hc)
  arrowless := by
    -- An arrow would have to stand in one of the two, or across the joint.
    refine List.isChain_append.2 ⟨h.arrowless, hnext.arrowless, fun c hc first hfirst hboth => ?_⟩
    obtain ⟨rfl, rfl⟩ := hboth
    exact hjoint.elim (· hc) (· hfirst)
  unbroken := by
    rw [List.mem_append, List.mem_append, not_or, not_or]
    exact ⟨⟨h.unbroken.1, hnext.unbroken.1⟩, h.unbroken.2, hnext.unbroken.2⟩

/-- With a blank between them no arrow comes about. -/
theorem IsField.spaced {text next : List Char} (h : IsField text) (hnext : IsField next) :
    IsField (text ++ ' ' :: next) where
  nonempty := List.append_ne_nil_of_left_ne_nil h.nonempty _
  first c hc := h.first c (by rwa [List.head?_append_of_ne_nil text h.nonempty] at hc)
  last c hc := by
    rw [List.getLast?_append_of_ne_nil text (List.cons_ne_nil ' ' next),
      List.getLast?_cons_of_ne_nil hnext.nonempty] at hc
    exact hnext.last c hc
  arrowless := by
    -- The blank is no half of an arrow.
    have hblank : IsArrowless (' ' :: next) :=
      List.isChain_cons.2 ⟨fun _ _ hboth => absurd hboth.1 (by decide), hnext.arrowless⟩
    refine List.isChain_append.2 ⟨h.arrowless, hblank, fun c _ first hfirst hboth => ?_⟩
    cases hfirst
    exact absurd hboth.2 (by decide)
  unbroken := by
    simp only [List.mem_append, List.mem_cons, not_or]
    exact ⟨⟨h.unbroken.1, by decide, hnext.unbroken.1⟩, h.unbroken.2, by decide,
      hnext.unbroken.2⟩

/-! ## Names and numbers

  Names may hold `-` but not `>`, and numbers may begin with `-`; so neither holds an arrow. -/

/-- The characters of names, of blocks as well as of files. -/
theorem of_isFileChar {c : Char} (h : isFileChar c = true) :
    isBlank c = false ∧ c ≠ '>' ∧ c ≠ ':' := by
  have hranges : c.isAlphanum = ((decide (65 ≤ c.toNat ∧ c.toNat ≤ 90) ||
      decide (97 ≤ c.toNat) && decide (c.toNat ≤ 122)) ||
      decide (48 ≤ c.toNat) && decide (c.toNat ≤ 57)) := rfl
  refine ⟨isBlank_of_visible ?_, ?_, ?_⟩
  · simp only [isFileChar, isNameChar, isWordChar, hranges, Bool.or_eq_true, Bool.and_eq_true,
      beq_iff_eq, decide_eq_true_eq] at h
    rcases h with (((((h | h) | h) | rfl) | rfl) | rfl) | rfl
    · omega
    · omega
    · omega
    all_goals decide
  · rintro rfl
    exact absurd h (by decide)
  · rintro rfl
    exact absurd h (by decide)

/-- A name of a block is made of the characters that names of files have. -/
theorem isFileChar_of_mem_name {name : List Char} (h : isName name = true) {c : Char}
    (hc : c ∈ name) : isFileChar c = true := by
  cases name with
  | nil => cases h
  | cons first rest =>
    rw [isName, Bool.and_eq_true] at h
    rw [isFileChar, isNameChar]
    rcases List.mem_cons.1 hc with rfl | hc
    · rw [h.1]
      rfl
    · have hname : isNameChar c = true := List.all_eq_true.1 h.2 c hc
      rw [isNameChar] at hname
      rw [hname]
      rfl

/-- So is a name of a file, which may also begin with a dot. -/
theorem isFileChar_of_mem_fileName {name : List Char} (h : isFileName name = true) {c : Char}
    (hc : c ∈ name) : isFileChar c = true := by
  cases name with
  | nil => cases h
  | cons first rest =>
    rw [isFileName, Bool.and_eq_true] at h
    rcases List.mem_cons.1 hc with rfl | hc
    · rcases Bool.or_eq_true _ _ ▸ h.1 with hword | hdot
      · rw [isFileChar, isNameChar, hword]
        rfl
      · rw [eq_of_beq hdot]
        decide
    · exact List.all_eq_true.1 h.2 c hc

/-- An integer is written with digits and perhaps a sign. -/
theorem number_of_mem_writeInteger {value : Int} {c : Char} (hc : c ∈ writeInteger value) :
    c = '-' ∨ c.isDigit = true := by
  cases value with
  | ofNat n => exact .inr (isDigit_of_mem_writeNatural hc)
  | negSucc n =>
    rcases List.mem_cons.1 hc with rfl | hc
    · exact .inl rfl
    · exact .inr (isDigit_of_mem_writeNatural hc)

/-- A mark with a name behind it is a field. -/
theorem isField_named {mark name : List Char}
    (hmark : mark.all (fun c => !isBlank c && c != '>') = true) (hname : isName name = true) :
    IsField (mark ++ name) := by
  have hall : ∀ c ∈ mark ++ name, isBlank c = false ∧ c ≠ '>' := by
    refine List.forall_mem_append.2 ⟨fun c hc => by simpa using List.all_eq_true.1 hmark c hc,
      fun c hc => ?_⟩
    obtain ⟨hblank, htip, -⟩ := of_isFileChar (isFileChar_of_mem_name hname hc)
    exact ⟨hblank, htip⟩
  have hsome : name ≠ [] := by
    rintro rfl
    cases hname
  exact isField_of_word (List.append_ne_nil_of_right_ne_nil mark hsome) (fun c hc => (hall c hc).1)
    (.inr fun hmem => (hall _ hmem).2 rfl)

/-- An integer that is written is a field. -/
theorem isField_integer (value : Int) : IsField (writeInteger value) := by
  obtain ⟨c, rest, hwritten, -⟩ := exists_head_writeInteger value
  refine isField_of_word (by rw [hwritten]; exact List.cons_ne_nil c rest)
    (fun c hc => isBlank_of_number (number_of_mem_writeInteger hc)) (.inr fun hmem => ?_)
  rcases number_of_mem_writeInteger hmem with heq | hdigit
  · exact absurd heq (by decide)
  · exact absurd hdigit (by decide)

/-- So is a comparison, if it is one. -/
theorem isField_comparison {comparison : Comparison} (h : ∀ symbol, comparison ≠ .other symbol) :
    IsField comparison.symbol.toList := by
  cases comparison with
  | other symbol => exact absurd rfl (h symbol)
  | _ => exact isField_of_all (by decide) (by decide)

/-! ## Conditions

  What is written for a condition is put together as the condition is, with a blank on either side
  of each comparison and each word. -/

/-- Parentheses around a field make no arrow. -/
theorem IsField.parenthesised {text : List Char} (h : IsField text) :
    IsField ('(' :: (text ++ [')'])) := by
  have hopen : IsField ['('] := isField_of_all (by decide) (by decide)
  have hclose : IsField [')'] := isField_of_all (by decide) (by decide)
  exact hopen.append (h.append hclose (.inr (by decide))) (.inl (by decide))

/-- Two fields in parentheses with a word between them. -/
theorem IsField.joined {left right word : List Char} (hleft : IsField left) (hright : IsField right)
    (hword : IsField word) :
    IsField ('(' :: (left ++ ' ' :: (word ++ ' ' :: right) ++ [')'])) :=
  (hleft.spaced (hword.spaced hright)).parenthesised

/-- **What is written for a condition is a field.** -/
theorem isField_describe {condition : Condition} (h : condition.IsWritable) {text : String}
    (hdescribe : condition.describe = .ok text) : IsField text.toList := by
  induction condition generalizing text with
  | flag name expected =>
    have hflag : IsField ("flag:" ++ name).toList := by
      rw [String.toList_append]
      exact isField_named (by decide) h
    cases expected with
    | true => cases hdescribe; exact hflag
    | false =>
      have hfalse : IsField "==false".toList :=
        isField_of_all (by decide) (by decide)
      cases hdescribe
      -- The name may end with `-`, but the test begins with `=`.
      show IsField ("flag:" ++ name ++ "==false").toList
      rw [String.toList_append]
      exact hflag.append hfalse (.inr (by decide))
  | counter name comparison value =>
    have hcounter : IsField ("counter:".toList ++ name.toList) := isField_named (by decide) h.1
    -- Between a name that ends with `-` and a `>` there is a blank.
    have hall := hcounter.spaced ((isField_comparison h.2).spaced (isField_integer value))
    cases hdescribe
    simpa [integer] using hall
  | not operand ih =>
    obtain ⟨inner, hinner, heq⟩ := bind_eq_ok_iff.1 hdescribe
    have hnot : IsField "not".toList := isField_of_all (by decide) (by decide)
    have hall := hnot.spaced (ih h hinner).parenthesised
    cases heq
    simpa using hall
  | and left right ihleft ihright =>
    obtain ⟨first, hfirst, hdescribe⟩ := bind_eq_ok_iff.1 hdescribe
    obtain ⟨second, hsecond, heq⟩ := bind_eq_ok_iff.1 hdescribe
    have hand : IsField "and".toList := isField_of_all (by decide) (by decide)
    have hall := (ihleft h.1 hfirst).joined (ihright h.2 hsecond) hand
    cases heq
    simpa using hall
  | or left right ihleft ihright =>
    obtain ⟨first, hfirst, hdescribe⟩ := bind_eq_ok_iff.1 hdescribe
    obtain ⟨second, hsecond, heq⟩ := bind_eq_ok_iff.1 hdescribe
    have hor : IsField "or".toList := isField_of_all (by decide) (by decide)
    have hall := (ihleft h.1 hfirst).joined (ihright h.2 hsecond) hor
    cases heq
    simpa using hall
  | unknown form => exact absurd h id

/-! ## Destinations

  A destination holds no blank at all, so the first blank behind it ends it. -/

/-- The characters of a destination are those of names, and the colon. -/
theorem mem_text_of_isNamed {destination : Destination} (h : destination.IsNamed) {c : Char}
    (hc : c ∈ destination.text.toList) : isBlank c = false ∧ c ≠ '>' := by
  have hname : ∀ {name : String}, isName name.toList = true → c ∈ name.toList →
      isBlank c = false ∧ c ≠ '>' := fun hname hmem =>
    ⟨(of_isFileChar (isFileChar_of_mem_name hname hmem)).1,
      (of_isFileChar (isFileChar_of_mem_name hname hmem)).2.1⟩
  cases destination with
  | block name => exact hname h hc
  | file id target =>
    rw [Destination.text, String.toList_append, String.toList_append, List.mem_append,
      List.mem_append] at hc
    rcases hc with (hid | hcolon) | hblock
    · have hchar := of_isFileChar (isFileChar_of_mem_fileName h.1 hid)
      exact ⟨hchar.1, hchar.2.1⟩
    · rw [List.mem_singleton.1 hcolon]
      decide
    · cases target with
      | none => cases hblock
      | some name => exact hname (h.2 name rfl) hblock
  | unknown form => exact absurd h id

/-- No destination with names is written as nothing. -/
theorem text_ne_nil_of_isNamed {destination : Destination} (h : destination.IsNamed) :
    destination.text.toList ≠ [] := by
  cases destination with
  | block name =>
    intro hnil
    rw [Destination.IsNamed, show name.toList = [] from hnil] at h
    cases h
  | file id target =>
    rw [Destination.text, String.toList_append, String.toList_append]
    simp
  | unknown form => exact absurd h id

/-- What is written for a destination is a field. -/
theorem isField_destination {destination : Destination} (h : destination.IsNamed) :
    IsField destination.text.toList :=
  isField_of_word (text_ne_nil_of_isNamed h) (fun _ hc => (mem_text_of_isNamed h hc).1)
    (.inr fun hmem => (mem_text_of_isNamed h hmem).2 rfl)

/-! ## The line

  The parts stand in a fixed order, with one blank between them.  Keywords and guard are left out
  with everything that belongs to them if there are none. -/

/-- Keywords in brackets, if there are any. -/
def writeKeywords : List String → String
  | [] => ""
  | keywords => " [" ++ String.intercalate ", " keywords ++ "]"

/-- If there are keywords, they stand behind a blank and a bracket, with a bracket behind them. -/
theorem toList_writeKeywords (first : String) (others : List String) :
    (writeKeywords (first :: others)).toList =
      ' ' :: '[' :: (List.intercalate ", ".toList ((first :: others).map String.toList) ++ [']'])
    := by
  rw [writeKeywords, String.toList_append, String.toList_append, String.toList_intercalate]
  · rfl
  · exact nofun

/-- A list of keywords holds what the keywords hold, and what stands between them. -/
theorem mem_of_mem_list {c : Char} {keywords : List String}
    (h : c ∈ List.intercalate ", ".toList (keywords.map String.toList)) :
    (c = ',' ∨ c = ' ') ∨ ∃ keyword ∈ keywords, c ∈ keyword.toList := by
  rcases mem_of_mem_intercalate h with hmark | ⟨piece, hpiece, hc⟩
  · exact .inl (List.mem_pair.1 hmark)
  · obtain ⟨keyword, hkeyword, rfl⟩ := List.mem_map.1 hpiece
    exact .inr ⟨keyword, hkeyword, hc⟩

/-- A guard behind its word, if there is one. -/
def writeGuard : Option Condition → Except Fault String
  | none => .ok ""
  | some guard => do
    let text ← guard.describe
    .ok (" if " ++ text)

/-- The line of a choice. A guard that cannot be described is a fault. -/
def writeOption (choice : Choice) : Except Fault String := do
  let guard ← writeGuard choice.guard
  .ok ("@option " ++ choice.label ++ writeKeywords choice.keywords ++ " -> " ++
    choice.destination.text ++ guard)

end Markup
end Gamebook
