/-
  What cleaning leaves of a reply.

  A reply is cleaned in two passes: what is neither a letter nor a digit nor a space is left out,
  and its words are put into lower case with one space between each and the next.  So there is no
  space in front, none at the end, and no two in a row (`IsSpaced`).  One would also think that only
  letters, digits and spaces are left, and that cleaning once more changes nothing.  One letter is
  in the way, the dotted capital `İ`: its small form has two characters, of which the second is no
  letter, but a dot to be put above the first.

  1. **Small letters**: every other letter has one small form, which is a letter again and no
     capital.  This is read off the tables run by run, not letter by letter (`isSound_of_mem`).

  2. **Phrases**: the words of a text, one space between each and the next, make a phrase
     (`IsPhrase`), and lower case makes a phrase of a phrase.  A phrase without other blanks is the
     phrase of its own words (`IsPhrase.intercalate_words`), so one of small letters is clean.

  * `Reply.sanitize_settles`: what holds of every reply, and that it is just the dotted capital that
    keeps cleaning from being final.
  * `Reply.sanitize_dotted`: what becomes of the dotted capital itself.

  Cleaning puts the text into lower case after it has left out what is no letter, which is why the
  dot can be in the result at all.  The second time the dot is left out, being no letter, and the
  rest is clean already.
-/
import Mathlib
import Gamebook.Proofs.TextPieces
import Gamebook.Reply

namespace Gamebook.Text

/-! ## The table of capitals

  There are many letters, but few runs of them.  Each run moves its letters by a fixed distance, so
  a few comparisons settle whether the small forms of one run meet another run.  The checks are
  computed for all pairs of runs at once, and the theorems about single letters are read off them.
-/

/-- The dotted capital I, as a run of its own. -/
def dottedRun : CapitalRun := ⟨304, 304, 1, 0⟩

/-- All letters that have a small form other than themselves. -/
def allCapitalRuns : List CapitalRun := dottedRun :: capitalRuns

/-- The letter has a small form other than itself. -/
def isCapital (c : Char) : Bool := allCapitalRuns.any (·.covers c.toNat)

namespace CapitalRun

/-- The small form of a code point of the run. -/
def small (run : CapitalRun) (code : Nat) : Nat := (code + run.distance).toNat

/-- The small forms of the run lie outside of another run, or between its members. -/
def isApart (run other : CapitalRun) : Bool :=
  Nat.blt (run.small run.last) other.first || Nat.blt other.last (run.small run.first) ||
    ((Nat.beq run.first run.last || Nat.beq run.step 2) && Nat.beq other.step 2 &&
      Nat.beq ((run.small run.first + other.first) % 2) 1)

/-- The small forms of the run lie within a run of letters. -/
def reaches (run : CapitalRun) (letters : CodeRun) : Bool :=
  Nat.ble letters.1 (run.small run.first) && Nat.ble (run.small run.last) letters.2

/-- The run has no letters in common with another. -/
def isOutside (run : CapitalRun) (letters : CodeRun) : Bool :=
  Nat.blt run.last letters.1 || Nat.blt letters.2 run.first

theorem covers_iff {run : CapitalRun} {code : Nat} :
    run.covers code = true ↔
      (run.first ≤ code ∧ code ≤ run.last) ∧ (code - run.first) % run.step = 0 := by
  simp [covers]

end CapitalRun

/-- The small forms of the run are code points too and lie apart from all capitals; they are letters
    or digits, unless nothing in the run is one. -/
def CapitalRun.isSound (run : CapitalRun) : Bool :=
  decide (0 ≤ (run.first : Int) + run.distance) && allCapitalRuns.all run.isApart &&
    (alphanumericRuns.any run.reaches || alphanumericRuns.all run.isOutside)

/-- **The table of capitals is sound**, run by run. -/
theorem isSound_of_mem {run : CapitalRun} (hrun : run ∈ capitalRuns) :
    (0 ≤ (run.first : Int) + run.distance ∧
      ∀ other ∈ allCapitalRuns, run.isApart other = true) ∧
      ((∃ letters ∈ alphanumericRuns, run.reaches letters = true) ∨
        ∀ letters ∈ alphanumericRuns, run.isOutside letters = true) := by
  have htable : capitalRuns.all CapitalRun.isSound = true := by decide +kernel
  have h : run.isSound = true := List.all_eq_true.1 htable run hrun
  rwa [CapitalRun.isSound, Bool.and_eq_true, Bool.and_eq_true, Bool.or_eq_true, decide_eq_true_iff,
    List.all_eq_true, List.any_eq_true, List.all_eq_true] at h

/-- The runs of letters avoid the gap in the code points, so their numbers are characters. -/
theorem isValidChar_of_mem {letters : CodeRun} (h : letters ∈ alphanumericRuns) {code : Nat}
    (hfirst : letters.1 ≤ code) (hlast : code ≤ letters.2) : code.isValidChar := by
  have htable : ∀ letters ∈ alphanumericRuns,
      letters.2 < 55296 ∨ 57343 < letters.1 ∧ letters.2 < 1114112 := by
    decide +kernel
  rcases htable letters h with hlow | ⟨hhigh, htop⟩
  · exact .inl (by omega)
  · exact .inr (by omega)

/-- **No small form of a capital is a capital.** -/
theorem not_covers_small {run other : CapitalRun} (hrun : run ∈ capitalRuns)
    (hother : other ∈ allCapitalRuns) {code : Nat} (hcode : run.covers code = true) :
    ¬ other.covers (run.small code) = true := by
  obtain ⟨⟨hnonneg, hall⟩, -⟩ := isSound_of_mem hrun
  have hapart := hall other hother
  obtain ⟨hrange, hstep⟩ := CapitalRun.covers_iff.1 hcode
  rw [CapitalRun.covers_iff]
  rintro ⟨hinside, hplace⟩
  simp only [CapitalRun.isApart, Bool.or_eq_true, Bool.and_eq_true, Nat.blt_eq, Nat.beq_eq,
    CapitalRun.small] at hapart hinside hplace
  obtain (hbelow | habove) | ⟨⟨hsingle | hpairs, hother⟩, hodd⟩ := hapart
  · omega
  · omega
  -- The other run goes in steps of two, and the small forms lie between its members.
  · rw [hother] at hplace
    omega
  · rw [hother] at hplace
    rw [hpairs] at hstep
    omega

/-- The small form of a capital that is a letter is a letter. -/
theorem exists_letters_small {run : CapitalRun} (hrun : run ∈ capitalRuns) {code : Nat}
    (hcode : run.covers code = true) {letters : CodeRun} (hletters : letters ∈ alphanumericRuns)
    (hfirst : letters.1 ≤ code) (hlast : code ≤ letters.2) :
    ∃ letters ∈ alphanumericRuns, letters.1 ≤ run.small code ∧ run.small code ≤ letters.2 := by
  obtain ⟨hrange, -⟩ := CapitalRun.covers_iff.1 hcode
  rcases (isSound_of_mem hrun).2 with ⟨reached, hmem, hreaches⟩ | hnone
  · simp only [CapitalRun.reaches, Bool.and_eq_true, Nat.ble_eq, CapitalRun.small] at hreaches
    refine ⟨reached, hmem, ?_⟩
    rw [CapitalRun.small]
    omega
  · have houtside := hnone letters hletters
    simp only [CapitalRun.isOutside, Bool.or_eq_true, Nat.blt_eq] at houtside
    omega

/-! ## Small letters

  A letter has one small form, up to the sigma, which has two and takes the one for the end of a
  word there, and the dotted capital, which has one of two characters.  These two are looked at by
  themselves. -/

theorem isCapital_of_covers {c : Char} {run : CapitalRun} (hrun : run ∈ capitalRuns)
    (h : run.covers c.toNat = true) : isCapital c = true :=
  List.any_eq_true.2 ⟨run, List.mem_cons_of_mem _ hrun, h⟩

/-- The capitals whose small forms are given one by one. -/
theorem isCapital_large {c : Char} (h : c ∈ ['Σ', 'İ']) : isCapital c = true := by
  have htable : ['Σ', 'İ'].all isCapital = true := by decide
  exact List.all_eq_true.1 htable c h

/-- Their small forms are no capitals, and nor is the space. -/
theorem isCapital_small {c : Char} (h : c ∈ ['σ', 'ς', 'i', '\u0307', ' ']) :
    isCapital c = false := by
  have htable : ['σ', 'ς', 'i', '\u0307', ' '].any isCapital = false := by decide
  exact Bool.eq_false_iff.2 (List.any_eq_false.1 htable c h)

/-- All of these are letters, apart from the dot. -/
theorem isAlphanumeric_letter {c : Char} (h : c ∈ ['İ', 'σ', 'ς', 'i']) :
    isAlphanumeric c = true := by
  have htable : ['İ', 'σ', 'ς', 'i'].all isAlphanumeric = true := by decide
  exact List.all_eq_true.1 htable c h

theorem isAlphanumeric_dot : isAlphanumeric '\u0307' = false := by decide +kernel

/-- What is no capital is its own small form. -/
theorem lowerChar_of_not_capital {c : Char} (h : isCapital c = false) : lowerChar c = c := by
  have hnone : capitalRuns.find? (·.covers c.toNat) = none := by
    refine List.find?_eq_none.2 fun run hrun hcovers => ?_
    rw [isCapital_of_covers hrun hcovers] at h
    cases h
  rw [lowerChar, hnone]

/-- **The small form of a letter** is a letter and no capital. -/
theorem isAlphanumeric_lowerChar {c : Char} (hc : isAlphanumeric c = true) (hdotted : c ≠ 'İ') :
    isAlphanumeric (lowerChar c) = true ∧ isCapital (lowerChar c) = false := by
  cases hfind : capitalRuns.find? (·.covers c.toNat) with
  | none =>
    rw [lowerChar, hfind]
    refine ⟨hc, Bool.eq_false_iff.2 fun hcapital => ?_⟩
    obtain ⟨run, hrun, hcovers⟩ := List.any_eq_true.1 hcapital
    -- Only the dotted capital is not looked up in the table.
    rcases List.mem_cons.1 hrun with rfl | hrun
    · have hcode : c.toNat = ('İ' : Char).toNat := by
        have hrange := (CapitalRun.covers_iff.1 hcovers).1
        exact Nat.le_antisymm hrange.2 hrange.1
      exact hdotted (Char.toNat_inj.1 hcode)
    · exact List.find?_eq_none.1 hfind run hrun hcovers
  | some run =>
    have hrun : run ∈ capitalRuns := List.mem_of_find?_eq_some hfind
    have hcovers : run.covers c.toNat = true := by
      have h := List.find?_some hfind
      exact h
    obtain ⟨letters, hletters, hfirst, hlast⟩ := inRuns_iff.1 hc
    obtain ⟨reached, hreached, hlow, hhigh⟩ :=
      exists_letters_small hrun hcovers hletters hfirst hlast
    have hcode : (lowerChar c).toNat = run.small c.toNat := by
      rw [lowerChar, hfind]
      exact (Char.toNat_ofNat _).trans (if_pos (isValidChar_of_mem hreached hlow hhigh))
    constructor
    · refine inRuns_iff.2 ⟨reached, hreached, ?_⟩
      rw [hcode]
      exact ⟨hlow, hhigh⟩
    · rw [isCapital, hcode]
      refine List.any_eq_false.2 fun other hother => ?_
      exact not_covers_small hrun hother hcovers

/-! ## A text in lower case

  The small form of a letter may depend on the text around it, so whatever is shown of lower case is
  shown for every text in front. -/

/-- The small form of a letter between two texts, the one before it with its nearest character
    first. -/
def smallForm (before : List Char) (c : Char) (after : List Char) : List Char :=
  if c = 'Σ' then [lowerSigma before after]
  else if c = 'İ' then ['i', '\u0307']
  else [lowerChar c]

theorem lower_go_cons (before : List Char) (c : Char) (rest : List Char) :
    lower.go before (c :: rest) = smallForm before c rest ++ lower.go (c :: before) rest := rfl

/-- What is no capital keeps its form. -/
theorem smallForm_of_not_capital {c : Char} (h : isCapital c = false) (before after : List Char) :
    smallForm before c after = [c] := by
  have hsigma : c ≠ 'Σ' := by
    rintro rfl
    rw [isCapital_large (by decide)] at h
    cases h
  have hdotted : c ≠ 'İ' := by
    rintro rfl
    rw [isCapital_large (by decide)] at h
    cases h
  rw [smallForm, if_neg hsigma, if_neg hdotted, lowerChar_of_not_capital h]

/-- The small form of any letter but the dotted capital is one letter. -/
theorem smallForm_letter {c : Char} (hc : isAlphanumeric c = true) (hdotted : c ≠ 'İ')
    (before after : List Char) :
    ∃ small, smallForm before c after = [small] ∧ isAlphanumeric small = true ∧
      isCapital small = false := by
  rw [smallForm]
  split
  next =>
    rw [lowerSigma]
    split
    · exact ⟨'ς', rfl, isAlphanumeric_letter (by decide), isCapital_small (by decide)⟩
    · exact ⟨'σ', rfl, isAlphanumeric_letter (by decide), isCapital_small (by decide)⟩
  next => exact ⟨lowerChar c, rfl, isAlphanumeric_lowerChar hc hdotted⟩

/-- A text without capitals is in lower case. -/
theorem lower_of_no_capital {text : List Char} (h : ∀ c ∈ text, isCapital c = false) :
    lower text = text := by
  have hgo : ∀ before, lower.go before text = text := by
    induction text with
    | nil => exact fun _ => rfl
    | cons c rest ih =>
      obtain ⟨hc, hrest⟩ := List.forall_mem_cons.1 h
      intro before
      rw [lower_go_cons, smallForm_of_not_capital hc, ih hrest]
      rfl
  exact hgo []

/-- What holds of all small forms holds of the text in lower case. -/
theorem forall_mem_lower {p : Char → Prop} {text : List Char}
    (h : ∀ c ∈ text, ∀ before after, ∀ small ∈ smallForm before c after, p small) :
    ∀ small ∈ lower text, p small := by
  -- A sigma has two small forms, of which the text before it decides: so for every text before.
  have hgo : ∀ before, ∀ small ∈ lower.go before text, p small := by
    induction text with
    | nil => exact fun _ => nofun
    | cons c rest ih =>
      obtain ⟨hc, hrest⟩ := List.forall_mem_cons.1 h
      intro before
      rw [lower_go_cons]
      exact List.forall_mem_append.2 ⟨hc before rest, ih hrest (c :: before)⟩
  exact hgo []

/-- The dotted capital leaves its dot. -/
theorem dot_mem_lower {text : List Char} (h : 'İ' ∈ text) : '\u0307' ∈ lower text := by
  have hgo : ∀ before, '\u0307' ∈ lower.go before text := by
    induction text with
    | nil => cases h
    | cons c rest ih =>
      intro before
      rw [lower_go_cons]
      rcases List.mem_cons.1 h with rfl | hrest
      · exact List.mem_append_left _ (List.mem_cons_of_mem _ List.mem_cons_self)
      · exact List.mem_append_right _ (ih hrest (c :: before))
  exact hgo []

/-! ## Phrases

  A phrase is given by its characters rather than by its words, since lower case works on
  characters.  The three constructors say what may follow a character: the end, another character of
  the word, or a space and a further word. -/

/-- No space stands in front of the text or at its end, and no two in a row. -/
structure IsSpaced (text : List Char) : Prop where
  front : text.head? ≠ some ' '
  back : text.getLast? ≠ some ' '
  single : ¬ [' ', ' '] <:+: text

/-- Words without spaces, one space between each and the next. -/
inductive IsPhrase : List Char → Prop
  | last {c : Char} (hc : c ≠ ' ') : IsPhrase [c]
  | inner {c : Char} {rest : List Char} (hc : c ≠ ' ') (h : IsPhrase rest) : IsPhrase (c :: rest)
  | space {c : Char} {rest : List Char} (hc : c ≠ ' ') (h : IsPhrase rest) :
      IsPhrase (c :: ' ' :: rest)

namespace IsPhrase

/-- A phrase begins with a character that is no space. -/
theorem exists_head {text : List Char} (h : IsPhrase text) :
    ∃ c rest, text = c :: rest ∧ c ≠ ' ' := by
  cases h with
  | last hc => exact ⟨_, _, rfl, hc⟩
  | inner hc _ => exact ⟨_, _, rfl, hc⟩
  | space hc _ => exact ⟨_, _, rfl, hc⟩

/-- A phrase is spaced. By induction on the phrase, for its end and for the two spaces in a row. -/
theorem isSpaced {text : List Char} (h : IsPhrase text) : IsSpaced text := by
  have hfront : ∀ {text}, IsPhrase text → text.head? ≠ some ' ' := by
    intro text h
    obtain ⟨c, rest, rfl, hc⟩ := h.exists_head
    exact fun hspace => hc (Option.some.inj hspace)
  have hnotFront : ∀ {text}, IsPhrase text → ∀ mark, ¬ ' ' :: mark <+: text := by
    intro text h mark hpre
    obtain ⟨c, rest, rfl, hc⟩ := h.exists_head
    exact hc (List.cons_prefix_cons.1 hpre).1.symm
  refine ⟨hfront h, ?_, ?_⟩
  · induction h with
    | last hc => exact fun hspace => hc (Option.some.inj hspace)
    | inner hc h ih =>
      obtain ⟨d, rest, rfl, -⟩ := h.exists_head
      exact ih
    | space hc h ih =>
      obtain ⟨d, rest, rfl, -⟩ := h.exists_head
      exact ih
  · induction h with
    | last hc =>
      rw [List.infix_cons_iff, List.infix_nil]
      rintro (hpre | hnil)
      · exact hc (List.cons_prefix_cons.1 hpre).1.symm
      · cases hnil
    | inner hc h ih =>
      rw [List.infix_cons_iff]
      rintro (hpre | hinner)
      · exact hc (List.cons_prefix_cons.1 hpre).1.symm
      · exact ih hinner
    | space hc h ih =>
      rw [List.infix_cons_iff, List.infix_cons_iff]
      rintro (hpre | hpre | hinner)
      · exact hc (List.cons_prefix_cons.1 hpre).1.symm
      · exact hnotFront h [] (List.cons_prefix_cons.1 hpre).2
      · exact ih hinner

/-- Further characters in front of a phrase belong to its first word. -/
theorem prepend {front text : List Char} (hfront : ' ' ∉ front) (h : IsPhrase text) :
    IsPhrase (front ++ text) := by
  induction front with
  | nil => exact h
  | cons c others ih =>
    rw [List.mem_cons, not_or] at hfront
    exact .inner (Ne.symm hfront.1) (ih hfront.2)

/-- A word is a phrase, and so is a word with a space and a phrase behind it. -/
theorem of_word {word : List Char} (hsome : word ≠ []) (hword : ' ' ∉ word) :
    IsPhrase word ∧ ∀ {rest}, IsPhrase rest → IsPhrase (word ++ ' ' :: rest) := by
  obtain ⟨front, c, rfl⟩ := List.eq_nil_or_concat word |>.resolve_left hsome
  rw [List.concat_eq_append] at hword ⊢
  rw [List.mem_append, List.mem_singleton, not_or] at hword
  refine ⟨prepend hword.1 (.last (Ne.symm hword.2)), fun h => ?_⟩
  rw [List.append_assoc]
  exact prepend hword.1 (.space (Ne.symm hword.2) h)

/-- Words that are joined by one space each are a phrase. -/
theorem of_words {words : List (List Char)} (hsome : words ≠ [])
    (hwords : ∀ word ∈ words, word ≠ [] ∧ ' ' ∉ word) :
    IsPhrase (List.intercalate [' '] words) := by
  induction words with
  | nil => exact absurd rfl hsome
  | cons word others ih =>
    obtain ⟨⟨hword, hspace⟩, hothers⟩ := List.forall_mem_cons.1 hwords
    obtain ⟨halone, hbefore⟩ := of_word hword hspace
    by_cases hend : others = []
    · rw [hend, List.intercalate_singleton]
      exact halone
    · rw [List.intercalate_cons_of_ne_nil hend, List.append_assoc]
      exact hbefore (ih hend hothers)

/-- **A phrase without other blanks is the phrase of its own words.** -/
theorem intercalate_words {text : List Char} (h : IsPhrase text)
    (hblanks : ∀ c ∈ text, isBlank c = true → c = ' ') :
    words text ≠ [] ∧ List.intercalate [' '] (words text) = text := by
  induction h with
  | @last c hc =>
    have hword : ¬ isBlank c = true := fun hblank => hc (hblanks c List.mem_cons_self hblank)
    rw [words_cons_of_not_blank hword]
    exact ⟨List.cons_ne_nil _ _, rfl⟩
  | @inner c rest hc h ih =>
    obtain ⟨hfirst, hothers⟩ := List.forall_mem_cons.1 hblanks
    have hword : ¬ isBlank c = true := fun hblank => hc (hfirst hblank)
    obtain ⟨d, others, rfl, hd⟩ := h.exists_head
    -- The rest begins within a word, so its first word is what `c` stands in front of.
    have hgoesOn : ¬ isBlank d = true := fun hblank => hd (hothers d List.mem_cons_self hblank)
    obtain ⟨-, hjoined⟩ := ih hothers
    rw [words_cons_of_not_blank hgoesOn] at hjoined
    rw [words_cons_of_not_blank hword, List.takeWhile_cons_of_pos (by simp [hgoesOn]),
      List.dropWhile_cons_of_pos (by simp [hgoesOn])]
    refine ⟨List.cons_ne_nil _ _, ?_⟩
    generalize words (others.dropWhile (!isBlank ·)) = behind at hjoined ⊢
    cases behind with
    | nil => exact congrArg (c :: ·) hjoined
    | cons next behind =>
      rw [List.intercalate_cons_cons] at hjoined ⊢
      exact congrArg (c :: ·) hjoined
  | @space c rest hc h ih =>
    obtain ⟨hfirst, hothers⟩ := List.forall_mem_cons.1 hblanks
    have hword : ¬ isBlank c = true := fun hblank => hc (hfirst hblank)
    have hspace : isBlank ' ' = true := by decide
    obtain ⟨hsome, hjoined⟩ := ih (List.forall_mem_cons.1 hothers).2
    rw [words_cons_of_not_blank hword, List.takeWhile_cons_of_neg (by simp [hspace]),
      List.dropWhile_cons_of_neg (by simp [hspace]), words_cons_of_blank hspace]
    refine ⟨List.cons_ne_nil _ _, ?_⟩
    rw [List.intercalate_cons_of_ne_nil hsome, hjoined]
    rfl

/-- Lower case makes a phrase of a phrase, as the small form of a letter holds no space. -/
theorem lower {text : List Char} (h : IsPhrase text)
    (hforms : ∀ c ∈ text, c ≠ ' ' → ∀ before after,
      smallForm before c after ≠ [] ∧ ' ' ∉ smallForm before c after) :
    IsPhrase (lower text) := by
  have hspace : isCapital ' ' = false := isCapital_small (by decide)
  have hgo : ∀ before, IsPhrase (Text.lower.go before text) := by
    induction h with
    | @last c hc =>
      intro before
      obtain ⟨hsome, hfree⟩ := hforms c List.mem_cons_self hc before []
      rw [lower_go_cons]
      exact (List.append_nil (smallForm before c [])).symm ▸ (of_word hsome hfree).1
    | @inner c rest hc h ih =>
      intro before
      obtain ⟨hfirst, hothers⟩ := List.forall_mem_cons.1 hforms
      rw [lower_go_cons]
      exact prepend (hfirst hc before rest).2 (ih hothers (c :: before))
    | @space c rest hc h ih =>
      intro before
      obtain ⟨hfirst, hothers⟩ := List.forall_mem_cons.1 hforms
      obtain ⟨hsome, hfree⟩ := hfirst hc before (' ' :: rest)
      rw [lower_go_cons, lower_go_cons, smallForm_of_not_capital hspace]
      exact (of_word hsome hfree).2 (ih (List.forall_mem_cons.1 hothers).2 (' ' :: c :: before))
  exact hgo []

end IsPhrase

end Gamebook.Text

namespace Gamebook.Reply

open Gamebook.Text

/-! ## What is cleaned

  Only letters, digits and spaces are kept, and the spaces are where the words are divided. -/

/-- The words of a text that is cleaned, before they are put into lower case. -/
def keptWords (text : List Char) : List (List Char) := words (text.filter isKept)

/-- Letters and digits are no blanks. -/
theorem isBlank_of_isAlphanumeric {c : Char} (h : isAlphanumeric c = true) : isBlank c = false := by
  have htable : (blankRuns.all fun blanks => alphanumericRuns.all fun letters =>
      Nat.blt blanks.2 letters.1 || Nat.blt letters.2 blanks.1) = true := by
    decide +kernel
  refine Bool.eq_false_iff.2 fun hblank => ?_
  obtain ⟨letters, hletters, hc⟩ := inRuns_iff.1 h
  obtain ⟨blanks, hblanks, hsame⟩ := inRuns_iff.1 hblank
  have hapart := List.all_eq_true.1 (List.all_eq_true.1 htable blanks hblanks) letters hletters
  simp only [Bool.or_eq_true, Nat.blt_eq] at hapart
  omega

theorem isKept_iff {c : Char} : isKept c = true ↔ isAlphanumeric c = true ∨ c = ' ' := by
  rw [isKept, Bool.or_eq_true, beq_iff_eq]

/-- Of the blanks the spaces alone are kept. -/
theorem eq_space_of_isKept {c : Char} (h : isKept c = true) (hblank : isBlank c = true) :
    c = ' ' := by
  rcases isKept_iff.1 h with hletter | hspace
  · rw [isBlank_of_isAlphanumeric hletter] at hblank
    cases hblank
  · exact hspace

/-- The words are made of letters and digits. -/
theorem isAlphanumeric_of_mem_keptWords {text word : List Char} (h : word ∈ keptWords text) :
    ∀ c ∈ word, isAlphanumeric c = true ∧ c ∈ text := by
  intro c hc
  obtain ⟨hblank, hmem⟩ := (mem_words h).2 c hc
  obtain ⟨hmem, hkept⟩ := List.mem_filter.1 hmem
  refine ⟨(isKept_iff.1 hkept).resolve_right ?_, hmem⟩
  rintro rfl
  exact absurd hblank (by decide)

/-- Every letter or digit is in one of the words. -/
theorem exists_mem_keptWords {text : List Char} {c : Char} (hc : c ∈ text)
    (h : isAlphanumeric c = true) : ∃ word ∈ keptWords text, c ∈ word := by
  refine exists_mem_words (List.mem_filter.2 ⟨hc, isKept_iff.2 (.inl h)⟩) ?_
  rw [isBlank_of_isAlphanumeric h]
  exact Bool.false_ne_true

/-! ## Cleaning once

  A cleaned text is a phrase in lower case.  What characters it holds is found by going back: from
  the small form to the letter, from the letter to its word, and from the word to the text. -/

/-- The words of a text, one space between each and the next, before they are put into lower
    case. -/
def phraseOf (text : List Char) : List Char := List.intercalate [' '] (keptWords text)

theorem clean_eq (text : List Char) : clean text = lower (phraseOf text) := rfl

/-- The phrase holds spaces, and letters and digits of the text. -/
theorem mem_of_mem_phraseOf {text : List Char} {c : Char} (h : c ∈ phraseOf text) :
    c = ' ' ∨ isAlphanumeric c = true ∧ c ∈ text := by
  rcases mem_of_mem_intercalate h with hspace | ⟨word, hword, hc⟩
  · exact .inl (List.mem_singleton.1 hspace)
  · exact .inr (isAlphanumeric_of_mem_keptWords hword c hc)

theorem mem_phraseOf {text : List Char} {c : Char} (hc : c ∈ text)
    (h : isAlphanumeric c = true) : c ∈ phraseOf text := by
  obtain ⟨word, hword, hmem⟩ := exists_mem_keptWords hc h
  exact mem_intercalate hword hmem

/-- A text without a single letter or digit is cleaned to nothing, any other to a phrase. -/
theorem isPhrase_phraseOf (text : List Char) : phraseOf text = [] ∨ IsPhrase (phraseOf text) := by
  by_cases hnone : keptWords text = []
  · left
    rw [phraseOf, hnone, List.intercalate_nil]
  · refine .inr (.of_words hnone fun word hword => ⟨(mem_words hword).1, fun hspace => ?_⟩)
    have hblank := isBlank_of_isAlphanumeric (isAlphanumeric_of_mem_keptWords hword ' ' hspace).1
    exact absurd hblank (by decide)

/-- What becomes of a letter in lower case: no capital is left, and beside letters there is only the
    dot of the dotted capital. -/
theorem smallForm_cases {c small : Char} {before after : List Char}
    (hc : isAlphanumeric c = true) (h : small ∈ smallForm before c after) :
    isCapital small = false ∧ (isAlphanumeric small = true ∨ c = 'İ' ∧ small = '\u0307') := by
  by_cases hdotted : c = 'İ'
  · subst hdotted
    rcases List.mem_pair.1 h with rfl | rfl
    · exact ⟨isCapital_small (by decide), .inl (isAlphanumeric_letter (by decide))⟩
    · exact ⟨isCapital_small (by decide), .inr ⟨rfl, rfl⟩⟩
  · obtain ⟨only, honly, hletter, hcapital⟩ := smallForm_letter hc hdotted before after
    rw [honly, List.mem_singleton] at h
    subst h
    exact ⟨hcapital, .inl hletter⟩

/-- **A cleaned text** holds no capitals, and beside letters, digits and spaces at most the dot. -/
theorem mem_clean {text : List Char} :
    ∀ c ∈ clean text, isCapital c = false ∧
      (isKept c = true ∨ 'İ' ∈ text ∧ c = '\u0307') := by
  refine forall_mem_lower fun c hc before after small hsmall => ?_
  rcases mem_of_mem_phraseOf hc with rfl | ⟨hletter, hmem⟩
  · have hspace : isCapital ' ' = false := isCapital_small (by decide)
    rw [smallForm_of_not_capital hspace, List.mem_singleton] at hsmall
    subst hsmall
    exact ⟨hspace, .inl (isKept_iff.2 (.inr rfl))⟩
  · obtain ⟨hcapital, hsmall | ⟨rfl, rfl⟩⟩ := smallForm_cases hletter hsmall
    · exact ⟨hcapital, .inl (isKept_iff.2 (.inl hsmall))⟩
    · exact ⟨hcapital, .inr ⟨hmem, rfl⟩⟩

theorem dot_mem_clean {text : List Char} (h : 'İ' ∈ text) : '\u0307' ∈ clean text :=
  dot_mem_lower (mem_phraseOf h (isAlphanumeric_letter (by decide)))

theorem isKept_dot : isKept '\u0307' = false := by
  rw [isKept, isAlphanumeric_dot]
  rfl

/-- **A cleaned text is spaced.** -/
theorem isPhrase_clean (text : List Char) : clean text = [] ∨ IsPhrase (clean text) := by
  rcases isPhrase_phraseOf text with hnone | hphrase
  · left
    rw [clean_eq, hnone]
    rfl
  · refine .inr (hphrase.lower fun c hc hspace before after => ?_)
    obtain ⟨hletter, -⟩ := (mem_of_mem_phraseOf hc).resolve_left hspace
    constructor
    · rw [smallForm]
      split
      next => exact List.cons_ne_nil _ _
      next => split <;> exact List.cons_ne_nil _ _
    · intro hmem
      obtain ⟨-, hsmall | ⟨-, hdot⟩⟩ := smallForm_cases hletter hmem
      · exact absurd (isBlank_of_isAlphanumeric hsmall) (by decide)
      · cases hdot

/-! ## Cleaning again

  A text stays as it is if it is a phrase, holds nothing that would be left out, and is in lower
  case.  A cleaned text has all of this, except that it may hold the dot. -/

/-- **A phrase of small letters, digits and spaces is clean.** -/
theorem clean_of_isPhrase {text : List Char} (hphrase : text = [] ∨ IsPhrase text)
    (hkept : ∀ c ∈ text, isKept c = true) (hsmall : ∀ c ∈ text, isCapital c = false) :
    clean text = text := by
  rcases hphrase with rfl | hphrase
  · rfl
  · have hfilter : text.filter isKept = text := List.filter_eq_self.2 hkept
    have hblanks : ∀ c ∈ text, isBlank c = true → c = ' ' :=
      fun c hc => eq_space_of_isKept (hkept c hc)
    rw [clean_eq, phraseOf, keptWords, hfilter, (hphrase.intercalate_words hblanks).2]
    exact lower_of_no_capital hsmall

/-- Without the dotted capital cleaning is final. -/
theorem clean_clean {text : List Char} (h : 'İ' ∉ text) : clean (clean text) = clean text :=
  clean_of_isPhrase (isPhrase_clean text)
    (fun c hc => (mem_clean c hc).2.resolve_right fun hdotted => h hdotted.1)
    fun c hc => (mem_clean c hc).1

/-- The dotted capital is a capital, so no cleaned text holds it. -/
theorem not_mem_clean_dotted (text : List Char) : 'İ' ∉ clean text := by
  intro h
  have hcapital := (mem_clean _ h).1
  rw [isCapital_large (by decide)] at hcapital
  cases hcapital

theorem toList_sanitize (reply : String) : (sanitize reply).toList = clean reply.toList :=
  String.toList_ofList

/-- **What cleaning a reply comes to.** No space is left in front, at the end or beside another
    space, and every other character is a letter or a digit, or the dot that the dotted capital
    leaves. Just the replies without that capital are cleaned to letters, digits and spaces, and
    just these are not changed by cleaning once more; cleaning twice is final for all. -/
theorem sanitize_settles (reply : String) :
    IsSpaced (sanitize reply).toList ∧
      (∀ c ∈ (sanitize reply).toList, isAlphanumeric c = true ∨ c = ' ' ∨ c = '\u0307') ∧
      ('İ' ∉ reply.toList ↔
        ∀ c ∈ (sanitize reply).toList, isAlphanumeric c = true ∨ c = ' ') ∧
      ('İ' ∉ reply.toList ↔ sanitize (sanitize reply) = sanitize reply) ∧
      sanitize (sanitize (sanitize reply)) = sanitize (sanitize reply) := by
  have hfinal : ∀ reply : String, 'İ' ∉ reply.toList →
      sanitize (sanitize reply) = sanitize reply := by
    intro reply hnone
    rw [← String.toList_inj, toList_sanitize, toList_sanitize]
    exact clean_clean hnone
  have hkept : ∀ text : List Char, 'İ' ∉ text → ∀ c ∈ clean text, isKept c = true :=
    fun text hnone c hc => (mem_clean c hc).2.resolve_right fun hdotted => hnone hdotted.1
  have hdot : 'İ' ∈ reply.toList → '\u0307' ∈ clean reply.toList := dot_mem_clean
  refine ⟨?_, ?_, ⟨fun hnone c hc => ?_, fun hletters hdotted => ?_⟩,
    ⟨hfinal reply, fun hsame hdotted => ?_⟩, ?_⟩
  · rw [toList_sanitize]
    rcases isPhrase_clean reply.toList with hnil | hphrase
    · rw [hnil]
      exact ⟨nofun, nofun, fun h => nomatch List.infix_nil.1 h⟩
    · exact hphrase.isSpaced
  · rw [toList_sanitize]
    intro c hc
    rcases (mem_clean c hc).2 with hc | ⟨-, hc⟩
    · exact (isKept_iff.1 hc).imp_right .inl
    · exact .inr (.inr hc)
  · rw [toList_sanitize] at hc
    exact isKept_iff.1 (hkept _ hnone c hc)
  · rw [toList_sanitize] at hletters
    have hletter := isKept_iff.2 (hletters _ (hdot hdotted))
    rw [isKept_dot] at hletter
    cases hletter
  -- What is cleaned holds no dotted capital any more, so cleaning again leaves the dot out.
  · have hmem : '\u0307' ∈ clean (clean reply.toList) := by
      rw [← String.toList_inj, toList_sanitize, toList_sanitize] at hsame
      rw [hsame]
      exact hdot hdotted
    have hletter := hkept _ (not_mem_clean_dotted reply.toList) _ hmem
    rw [isKept_dot] at hletter
    cases hletter
  · refine hfinal (sanitize reply) ?_
    rw [toList_sanitize]
    exact not_mem_clean_dotted reply.toList

/-- **The dotted capital is cleaned to an i and a dot**, which is no letter, and cleaning once more
    takes the dot away. -/
theorem sanitize_dotted :
    sanitize "İ" = "i\u0307" ∧ isAlphanumeric '\u0307' = false ∧ '\u0307' ≠ ' ' ∧
      sanitize (sanitize "İ") = "i" ∧ sanitize (sanitize "İ") ≠ sanitize "İ" := by
  decide +kernel

end Gamebook.Reply
