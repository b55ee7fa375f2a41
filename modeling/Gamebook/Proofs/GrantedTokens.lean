/-
  Readers that take steps for granted: the lapses, and the tokens of a condition.

  A reader can be written so that it cannot get stuck, or so that some of its steps are taken for
  granted: that a token is of some kind, that what passes for a number can be turned into one, that
  a piece of a text is found where it is looked for.  The readers of story files are of the first
  sort.  Here, and in the modules that go on from here, they are written in the second, every such
  step made explicit: where it cannot be taken the reader comes to a `Lapse` of its own, which is no
  flaw of the file.  Each of them is then shown to do just what its counterpart does, so that no
  lapse ever happens (`lapseFree`).

  A condition is scanned from place to place: the head of what is left is compared with one form
  after another, the first that fits tells the kind of the token, and the next place is where the
  token ends.  Two things are taken for granted, that the form is one of a kind and that the token
  takes a character.  Both hold because whatever the reader of tokens finds at the head of a text is
  matched by a form of some kind and of the same length (`matchForms_forms`); and a number is
  matched only where a sign, if any, and digits stand (`isNumeral_leadingNumber`).
-/
import Gamebook.Proofs.DescribedCondition

namespace Gamebook.Text

/-! ## Numbers

  The form of a number is what a pattern would ask for, and reading a number is what the program
  does with it.  They accept the same texts (`readInteger?_isSome`), and this is what rules the
  first lapse out. -/

/-- The text has the form of a number: a sign, if any, and one decimal digit or more. -/
def isNumeral (text : List Char) : Bool :=
  let digits := if text.head? = some '-' || text.head? = some '+' then text.tail else text
  !digits.isEmpty && digits.all isDecimal

theorem readNatural?_isSome (text : List Char) :
    (readNatural? text).isSome = (!text.isEmpty && text.all isDecimal) := by
  rw [readNatural?]
  cases !text.isEmpty && text.all isDecimal <;> rfl

/-- What has the form of a number can be turned into one, and nothing else can. -/
theorem readInteger?_isSome (text : List Char) :
    (readInteger? text).isSome = isNumeral text := by
  rw [readInteger?.eq_def]
  split
  next digits =>
    have hdigits := readNatural?_isSome digits
    rw [Option.isSome_map]
    cases hread : readNatural? digits <;> rw [hread] at hdigits <;> exact hdigits
  next digits =>
    have hdigits := readNatural?_isSome digits
    rw [Option.isSome_map]
    exact hdigits
  -- No sign in front: all of the text has to be digits.
  next hminus hplus =>
    have hsign : ¬ ((text.head? = some '-' || text.head? = some '+') = true) := by
      cases text with
      | nil => decide
      | cons c rest =>
        rw [Bool.or_eq_true, decide_eq_true_iff, decide_eq_true_iff]
        rintro (h | h)
        · exact hminus rest (by rw [Option.some.inj h])
        · exact hplus rest (by rw [Option.some.inj h])
    rw [Option.isSome_map, readNatural?_isSome, isNumeral, if_neg hsign]

/-! ## The head of a text

  Names, words and numbers are taken from the head of a text as far as they go, so each of them
  begins the text. -/

/-- What is left behind a mark has the mark in front. -/
theorem afterPrefix?_eq_some {mark text rest : List Char} (h : afterPrefix? mark text = some rest) :
    text = mark ++ rest := by
  induction mark generalizing text with
  | nil => exact Option.some.inj h
  | cons m mark ih =>
    cases text with
    | nil => cases h
    | cons c text =>
      rw [afterPrefix?] at h
      split at h
      next hc => rw [hc, ih h, List.cons_append]
      next => cases h

end Gamebook.Text

namespace Gamebook.Markup

open Gamebook.Text

/-- The name with which a text begins begins it, and is empty if there is none. -/
theorem leadingName_isPrefix (text : List Char) : leadingName text <+: text := by
  cases text with
  | nil => exact List.nil_prefix
  | cons c rest =>
    rw [leadingName]
    split
    next => exact List.cons_prefix_cons.2 ⟨rfl, List.takeWhile_prefix _⟩
    next => exact List.nil_prefix

/-- So does the word. -/
theorem leadingWord_isPrefix (text : List Char) : leadingWord text <+: text := by
  cases text with
  | nil => exact List.nil_prefix
  | cons c rest =>
    rw [leadingWord]
    split
    next => exact List.cons_prefix_cons.2 ⟨rfl, List.takeWhile_prefix _⟩
    next => exact List.nil_prefix

/-- And so does the number, with its sign; a sign without digits is no number. -/
theorem leadingNumber_isPrefix (text : List Char) : leadingNumber text <+: text := by
  cases text with
  | nil => exact List.nil_prefix
  | cons c rest =>
    rw [leadingNumber]
    split
    next =>
      dsimp only
      split
      next => exact List.nil_prefix
      next => exact List.cons_prefix_cons.2 ⟨rfl, List.takeWhile_prefix _⟩
    next => exact List.takeWhile_prefix _

/-- The number that a text begins with, if any, has the form of one. -/
theorem isNumeral_leadingNumber {text : List Char} (h : leadingNumber text ≠ []) :
    isNumeral (leadingNumber text) = true := by
  cases text with
  | nil => exact absurd rfl h
  | cons c rest =>
    rw [leadingNumber] at h ⊢
    split at h
    -- A sign: it counts only with a digit behind it.
    next hsign =>
      rw [if_pos hsign]
      dsimp only at h ⊢
      split at h
      next => exact absurd rfl h
      next hdigits =>
        have hhead : ((c :: rest.takeWhile isDecimal).head? = some '-' ||
            (c :: rest.takeWhile isDecimal).head? = some '+') = true := by
          simpa [or_comm] using hsign
        rw [if_neg hdigits, isNumeral, if_pos hhead, List.tail_cons, List.all_takeWhile]
        simpa using hdigits
    -- No sign: the first character is a digit, or no number stands here.
    next hsign =>
      rw [if_neg hsign]
      by_cases hc : isDecimal c = true
      · have hhead : ¬ (((c :: rest.takeWhile isDecimal).head? = some '-' ||
            (c :: rest.takeWhile isDecimal).head? = some '+') = true) := by
          simpa [or_comm] using hsign
        rw [List.takeWhile_cons_of_pos hc, isNumeral, if_neg hhead, List.all_cons, hc,
          List.all_takeWhile]
        rfl
      · exact absurd (List.takeWhile_cons_of_neg hc) h

/-! ## Lapses

  A reader of the second sort gives a value, a flaw or a lapse.  `lapseFree` turns a result of the
  first sort into one of the second, and the equations below say that it goes through everything of
  which readers are made; so it is enough to compare the single steps. -/

/-- A step that was taken for granted and cannot be taken. -/
inductive Lapse where
  /-- A directive line is not a mark, a keyword, blanks and arguments. -/
  | undivided
  /-- A token is of no kind. -/
  | kindless
  /-- A token takes no character, so the same one would be met again. -/
  | standstill
  /-- No block and no conditional is open where one is used. -/
  | noFrame
  /-- A conditional has no condition. -/
  | noCondition
  /-- What is turned into a number is none. -/
  | notNumber
  /-- A piece of a text is not found in it. -/
  | notFound
  /-- There is no last run that could end its line. -/
  | noRun
  /-- There is no first block that could be the entry. -/
  | noBlock
deriving DecidableEq

/-- Why a reader stops: at a flaw of what it reads, or where it cannot go on itself. -/
inductive Mishap (ε : Type) where
  | flaw (flaw : ε)
  | lapse (lapse : Lapse)

section

variable {ε α β γ : Type}

/-- What comes of reading without a lapse. -/
def lapseFree (result : Except ε α) : Except (Mishap ε) α := result.mapError Mishap.flaw

/-- The value that was taken for granted. -/
def require (lapse : Lapse) : Option α → Except (Mishap ε) α
  | some value => .ok value
  | none => .error (.lapse lapse)

theorem lapseFree_bind (result : Except ε α) (next : α → Except ε β) :
    lapseFree (result >>= next) = lapseFree result >>= fun value => lapseFree (next value) := by
  cases result <;> rfl

theorem lapseFree_map (result : Except ε α) (f : α → β) :
    lapseFree (result.map f) = (lapseFree result).map f := by
  cases result <;> rfl

theorem lapseFree_map_bind (result : Except ε α) (next : α → Except ε β) (f : β → γ) :
    lapseFree ((result >>= next).map f) =
      lapseFree result >>= fun value => lapseFree ((next value).map f) := by
  cases result <;> rfl

/-- Without a lapse there is a value or a flaw. -/
theorem exists_of_lapseFree (result : Except ε α) :
    (∃ value, lapseFree result = .ok value) ∨ ∃ flaw, lapseFree result = .error (.flaw flaw) := by
  cases result with
  | ok value => exact .inl ⟨value, rfl⟩
  | error flaw => exact .inr ⟨flaw, rfl⟩

end

/-- What is turned into a number has to have the form of one. -/
def toInteger (text : List Char) : Except (Mishap Flaw) Int :=
  require .notNumber (if isNumeral text then readInteger? text else none)

/-- What has the form of a number is turned into one without a lapse. -/
theorem toInteger_of_isNumeral {text : List Char} (h : isNumeral text = true) :
    ∃ value, readInteger? text = some value ∧ toInteger text = .ok value := by
  obtain ⟨value, hvalue⟩ := Option.isSome_iff_exists.1 ((readInteger?_isSome text).trans h)
  refine ⟨value, hvalue, ?_⟩
  rw [toInteger, if_pos h, hvalue]
  rfl

/-! ## The tokens of a condition

  The other way of scanning: a table of forms is gone through from its beginning, and the first form
  that fits tells the kind and the length.  The order of the table matters twice.  Marks come first,
  and of two marks the longer one; words come last, since a reference begins like one. -/

/-- The kinds of token. -/
inductive Kind where
  | openParen
  | closeParen
  | relation
  | and
  | or
  | bang
  | reference
  | integer
  | word
deriving DecidableEq

/-- A form that the head of a text is compared with: what it tells of the kind of the token, and
    how many characters it takes. -/
structure Form where
  kind : Option Kind
  length? : List Char → Option Nat

/-- The length of what was taken from the head of a text, if that is anything. -/
def spanLength? (span : List Char) : Option Nat :=
  if span.isEmpty then none else some span.length

/-- The form of a mark. -/
def Form.mark (kind : Kind) (mark : String) : Form where
  kind := kind
  length? text := if mark.toList.isPrefixOf text then some mark.toList.length else none

/-- The form of a flag or a counter. -/
def Form.reference (mark : String) : Form where
  kind := some .reference
  length? text := (afterPrefix? mark.toList text).bind fun rest =>
    (spanLength? (leadingName rest)).map (mark.toList.length + ·)

/-- The form of a number. -/
def Form.integer : Form where
  kind := some .integer
  length? text := spanLength? (leadingNumber text)

/-- The form of a word. -/
def Form.word : Form where
  kind := some .word
  length? text := spanLength? (leadingWord text)

/-- The marks with their kinds; where one begins another, the longer one comes first. -/
def marks : List (Kind × String) :=
  [(.openParen, "("), (.closeParen, ")"), (.relation, "<="), (.relation, ">="), (.relation, "=="),
   (.relation, "!="), (.relation, "<"), (.relation, ">"), (.and, "&&"), (.or, "||"), (.bang, "!")]

/-- The forms of the marks. -/
def markForms : List Form := marks.map fun mark => .mark mark.1 mark.2

/-- All forms, in the order in which they are tried. -/
def forms : List Form :=
  markForms ++ [.reference "flag:", .reference "counter:", .integer, .word]

/-- What the first form that fits tells of the head of a text. -/
def matchForms (forms : List Form) (text : List Char) : Option (Option Kind × Nat) :=
  forms.findSome? fun form => (form.length? text).map (form.kind, ·)

/-- The comparison that is written so. -/
def relationOf (value : List Char) : Relation :=
  if value = "<=".toList then .atMost
  else if value = ">=".toList then .atLeast
  else if value = "==".toList then .equal
  else if value = "!=".toList then .unequal
  else if value = "<".toList then .less
  else .greater

/-- What a token of a kind stands for, whose text is `value` and stands in column `column`. -/
def Kind.symbol (column : Nat) (value : List Char) : Kind → Except (Mishap Flaw) Symbol
  | openParen => .ok .openParen
  | closeParen => .ok .closeParen
  | relation => .ok (.relation (relationOf value))
  | and => .ok .and
  | or => .ok .or
  | bang => .ok .not
  | reference =>
    let (place, name) := splitFirst ':' value
    if place = "flag".toList then .ok (.flag (String.ofList name))
    else .ok (.counter (String.ofList name))
  | integer => (toInteger value).map .integer
  | word =>
    match wordSymbol? value with
    | some symbol => .ok symbol
    | none => .error (.flaw (Flaw.at column value (.unexpectedWord (String.ofList value))))

namespace Granted

/-- Divides what is left of the condition `whole`, from column `column` on. -/
def scanFrom (whole : List Char) (column : Nat) : List Char → Except (Mishap Flaw) (List Token)
  | [] => .ok []
  | c :: rest =>
    if isBlank c then scanFrom whole (column + 1) rest
    else match matchForms forms (c :: rest) with
      | none => .error (.flaw (Flaw.at column whole (.unexpectedCharacter c)))
      | some (kind, length) => do
        let kind ← require .kindless kind
        let value := (c :: rest).take length
        let symbol ← kind.symbol column value
        if _h : 0 < length then
          let others ← scanFrom whole (column + length) ((c :: rest).drop length)
          .ok (⟨symbol, String.ofList value, column⟩ :: others)
        else .error (.lapse .standstill)
termination_by text => text.length
decreasing_by
  · exact Nat.lt_succ_self _
  · rw [List.length_drop, List.length_cons]
    omega

end Granted

/-! ### Each token is found by a form with a name

  By the reader that finds the token.  What has to be shown is that the form fits with the same
  length and that its kind gives the same symbol. -/

/-- The head of a text was matched by a form of a kind, which says what the token stands for. -/
def IsMatched (forms : List Form) (text : List Char) (symbol : Option Symbol) (length : Nat) :
    Prop :=
  0 < length ∧ ∃ kind, matchForms forms text = some (some kind, length) ∧
    ∀ column, kind.symbol column (text.take length) =
      match symbol with
      | some symbol => .ok symbol
      | none => .error (.flaw (Flaw.at column (text.take length)
          (.unexpectedWord (String.ofList (text.take length)))))

/-- A mark of one character, with which a longer one begins, is found if that is not there. -/
theorem matchForms_mark_single {c : Char} {rest : List Char} {kind : Kind}
    (hc : c = '<' ∨ c = '>' ∨ c = '!') (hrest : ∀ tail, rest ≠ '=' :: tail)
    (halone : matchForms markForms [c] = some (some kind, 1)) :
    matchForms markForms (c :: rest) = some (some kind, 1) := by
  cases rest with
  | nil => exact halone
  | cons d rest =>
    have hd : ¬ '=' = d := fun h => hrest rest (by rw [h])
    rcases hc with rfl | rfl | rfl <;>
      simpa [matchForms, markForms, marks, Form.mark, hd] using halone

/-- A mark is found by the form of that mark. The three that begin longer ones are read only where
    the longer one does not stand, and there the form of the longer one does not fit either. -/
theorem isMatched_of_leadingMark? {text : List Char} {symbol : Symbol} {length : Nat}
    (h : leadingMark? text = some (symbol, length)) :
    IsMatched markForms text (some symbol) length := by
  rw [leadingMark?.eq_def] at h
  split at h <;> cases h
  · exact ⟨by decide, .openParen, rfl, fun _ => rfl⟩
  · exact ⟨by decide, .closeParen, rfl, fun _ => rfl⟩
  · exact ⟨by decide, .relation, rfl, fun _ => rfl⟩
  · exact ⟨by decide, .relation, rfl, fun _ => rfl⟩
  · exact ⟨by decide, .relation, rfl, fun _ => rfl⟩
  · exact ⟨by decide, .relation, rfl, fun _ => rfl⟩
  · rename_i hother
    exact ⟨by decide, .relation,
      matchForms_mark_single (.inl rfl) (fun tail h => hother tail (by rw [h])) rfl, fun _ => rfl⟩
  · rename_i hother
    exact ⟨by decide, .relation,
      matchForms_mark_single (.inr (.inl rfl)) (fun tail h => hother tail (by rw [h])) rfl,
      fun _ => rfl⟩
  · exact ⟨by decide, .and, rfl, fun _ => rfl⟩
  · exact ⟨by decide, .or, rfl, fun _ => rfl⟩
  · rename_i hother
    exact ⟨by decide, .bang,
      matchForms_mark_single (.inr (.inr rfl)) (fun tail h => hother tail (by rw [h])) rfl,
      fun _ => rfl⟩

/-- Where a mark stands, one is found. -/
theorem leadingMark?_ne_none {mark : Kind × String} (hmark : mark ∈ marks) (rest : List Char) :
    leadingMark? (mark.2.toList ++ rest) ≠ none := by
  -- These three begin longer marks, so what is read there depends on the rest.
  have hsingle : ∀ c ∈ ['<', '>', '!'], leadingMark? (c :: rest) ≠ none := by
    intro c hc hnone
    rw [leadingMark?.eq_def] at hnone
    split at hnone <;> simp_all
  simp only [marks, List.mem_cons, List.not_mem_nil, or_false] at hmark
  rcases hmark with rfl | rfl | rfl | rfl | rfl | rfl | rfl | rfl | rfl | rfl | rfl
  · exact Option.some_ne_none _
  · exact Option.some_ne_none _
  · exact Option.some_ne_none _
  · exact Option.some_ne_none _
  · exact Option.some_ne_none _
  · exact Option.some_ne_none _
  · exact hsingle '<' (by decide)
  · exact hsingle '>' (by decide)
  · exact Option.some_ne_none _
  · exact Option.some_ne_none _
  · exact hsingle '!' (by decide)

/-- Where no mark is read, none of their forms fits. -/
theorem matchForms_mark_of_none {text : List Char} (h : leadingMark? text = none) :
    matchForms markForms text = none := by
  rw [matchForms, List.findSome?_eq_none_iff]
  intro form hform
  obtain ⟨mark, hmark, rfl⟩ := List.mem_map.1 hform
  refine Option.map_eq_none_iff.2 (if_neg fun hpre => ?_)
  obtain ⟨rest, rfl⟩ := List.isPrefixOf_iff_prefix.1 hpre
  exact leadingMark?_ne_none hmark rest h

/-! ### References, numbers and words

  Each of these has a form of its own, whose length is that of the span that the reader takes. -/

/-- The form of a reference takes as many characters as the reader does. -/
theorem length?_reference (mark : String) (make : String → Symbol) (text : List Char) :
    (Form.reference mark).length? text =
      (leadingReference? mark.toList make text).map (·.2) := by
  show (afterPrefix? mark.toList text).bind _ = _
  rw [leadingReference?]
  cases afterPrefix? mark.toList text with
  | none => rfl
  | some rest =>
    show (spanLength? (leadingName rest)).map _ = _
    rw [spanLength?]
    dsimp only
    split <;> rfl

/-- So does the form of a number. The reader also turns the number into its value, and that never
    fails after a number was found. -/
theorem length?_integer (text : List Char) :
    Form.integer.length? text = (leadingInteger? text).map (·.2) := by
  show spanLength? (leadingNumber text) = _
  have hread := readInteger?_isSome (leadingNumber text)
  rw [leadingInteger?, spanLength?]
  split
  next hempty =>
    rw [List.isEmpty_iff.1 hempty]
    rfl
  next hempty =>
    rw [isNumeral_leadingNumber fun hnil => hempty (List.isEmpty_iff.2 hnil)] at hread
    obtain ⟨value, hvalue⟩ := Option.isSome_iff_exists.1 hread
    rw [hvalue]
    rfl

/-- A flag or a counter is taken with its name. -/
theorem take_of_leadingReference? {mark : List Char} {make : String → Symbol} {text : List Char}
    {symbol : Symbol} {length : Nat}
    (h : leadingReference? mark make text = some (symbol, length)) :
    ∃ name, symbol = make (String.ofList name) ∧ text.take length = mark ++ name ∧
      mark.length < length := by
  rw [leadingReference?] at h
  split at h
  next => cases h
  next rest hrest =>
    dsimp only at h
    split at h
    next => cases h
    next hname =>
      cases h
      obtain ⟨tail, htail⟩ := leadingName_isPrefix rest
      have htext : text = mark ++ leadingName rest ++ tail := by
        rw [afterPrefix?_eq_some hrest, List.append_assoc, htail]
      have hpos : 0 < (leadingName rest).length :=
        List.length_pos_iff.2 fun hnil => hname (List.isEmpty_iff.2 hnil)
      have htake : (mark ++ leadingName rest ++ tail).take (mark ++ leadingName rest).length =
          mark ++ leadingName rest := List.take_left
      rw [← htext, List.length_append] at htake
      exact ⟨leadingName rest, rfl, htake, by omega⟩

/-- The form of a reference finds what the reader of references finds. -/
theorem isMatched_of_reference {mark : String} {make : String → Symbol} {text : List Char}
    {symbol : Symbol} {length : Nat}
    (hmake : ∀ column name, Kind.reference.symbol column (mark.toList ++ name) =
      .ok (make (String.ofList name)))
    (h : leadingReference? mark.toList make text = some (symbol, length)) :
    IsMatched [.reference mark] text (some symbol) length := by
  obtain ⟨name, rfl, htake, hlength⟩ := take_of_leadingReference? h
  refine ⟨Nat.lt_of_le_of_lt (Nat.zero_le _) hlength, .reference, ?_, fun column => ?_⟩
  · rw [matchForms, List.findSome?_singleton, length?_reference mark make, h]
    rfl
  · rw [htake]
    exact hmake column name

/-- The form of a number finds what the reader of numbers finds. -/
theorem isMatched_of_integer {text : List Char} {symbol : Symbol} {length : Nat}
    (h : leadingInteger? text = some (symbol, length)) :
    IsMatched [.integer] text (some symbol) length := by
  have hmatch : matchForms [.integer] text = some (some .integer, length) := by
    rw [matchForms, List.findSome?_singleton, length?_integer, h]
    rfl
  obtain ⟨value, hvalue, hpair⟩ := Option.map_eq_some_iff.1 h
  cases hpair
  have htake : text.take (leadingNumber text).length = leadingNumber text :=
    (List.prefix_iff_eq_take.1 (leadingNumber_isPrefix text)).symm
  have hpos : 0 < (leadingNumber text).length := by
    refine List.length_pos_iff.2 fun hnil => ?_
    rw [hnil] at hvalue
    cases hvalue
  obtain ⟨number, hnumber, hinteger⟩ :=
    toInteger_of_isNumeral (isNumeral_leadingNumber (List.length_pos_iff.1 hpos))
  rw [hnumber] at hvalue
  cases hvalue
  refine ⟨hpos, .integer, hmatch, fun column => ?_⟩
  rw [htake, Kind.symbol, hinteger]
  rfl

/-- The form of a word finds words, those that stand for a symbol and those that are rejected. -/
theorem isMatched_of_word {text : List Char} (h : leadingWord text ≠ []) :
    IsMatched [.word] text (wordSymbol? (leadingWord text)) (leadingWord text).length := by
  have htake : text.take (leadingWord text).length = leadingWord text :=
    (List.prefix_iff_eq_take.1 (leadingWord_isPrefix text)).symm
  refine ⟨List.length_pos_iff.2 h, .word, ?_, fun column => ?_⟩
  · have hlength : Form.word.length? text = some (leadingWord text).length :=
      if_neg fun hempty => h (List.isEmpty_iff.1 hempty)
    rw [matchForms, List.findSome?_singleton, hlength]
    rfl
  · rw [htake]
    rfl

/-! ### The forms together

  Forms in front that do not fit make no difference, and neither do any forms behind the one that
  does. -/

theorem matchForms_append (first others : List Form) (text : List Char) :
    matchForms (first ++ others) text = (matchForms first text).or (matchForms others text) :=
  List.findSome?_append

section

variable {first others : List Form} {text : List Char} {symbol : Option Symbol} {length : Nat}

theorem IsMatched.append (h : IsMatched first text symbol length) (others : List Form) :
    IsMatched (first ++ others) text symbol length := by
  obtain ⟨hpos, kind, hmatch, hsymbol⟩ := h
  exact ⟨hpos, kind, by rw [matchForms_append, hmatch, Option.some_or], hsymbol⟩

theorem IsMatched.append_of_none (h : IsMatched others text symbol length)
    (hnone : matchForms first text = none) : IsMatched (first ++ others) text symbol length := by
  obtain ⟨hpos, kind, hmatch, hsymbol⟩ := h
  exact ⟨hpos, kind, by rw [matchForms_append, hnone, hmatch, Option.none_or], hsymbol⟩

theorem matchForms_append_of_none (hfirst : matchForms first text = none)
    (hothers : matchForms others text = none) : matchForms (first ++ others) text = none := by
  rw [matchForms_append, hfirst, hothers, Option.none_or]

end

theorem matchForms_single_of_none {form : Form} {text : List Char}
    (h : form.length? text = none) : matchForms [form] text = none := by
  rw [matchForms, List.findSome?_singleton, h]
  rfl

/-- **The head of a text is matched as it is read**: by a form that tells the kind and takes at
    least one character, and by none where the text does not go on with a token. -/
theorem matchForms_forms (text : List Char) :
    match lexeme? text with
    | some lexeme => IsMatched forms text lexeme.symbol lexeme.length
    | none => matchForms forms text = none := by
  rw [lexeme?]
  -- The forms are tried in the order of the readers, so what is left to find in each case is that
  -- the forms before the one that fits do not.
  cases hmark : leadingMark? text with
  | some found => exact (isMatched_of_leadingMark? hmark).append _
  | none =>
    have hnoMark := matchForms_mark_of_none hmark
    cases hflag : leadingReference? "flag:".toList .flag text with
    | some found =>
      have hmatched := isMatched_of_reference (fun _ _ => rfl) hflag
      exact (hmatched.append _).append_of_none hnoMark
    | none =>
      have hnoFlag : matchForms [.reference "flag:"] text = none :=
        matchForms_single_of_none (by rw [length?_reference _ .flag, hflag]; rfl)
      cases hcounter : leadingReference? "counter:".toList .counter text with
      | some found =>
        have hmatched := isMatched_of_reference (fun _ _ => rfl) hcounter
        exact ((hmatched.append _).append_of_none hnoFlag).append_of_none hnoMark
      | none =>
        have hnoCounter : matchForms [.reference "counter:"] text = none :=
          matchForms_single_of_none (by rw [length?_reference _ .counter, hcounter]; rfl)
        cases hinteger : leadingInteger? text with
        | some found =>
          have hmatched := (isMatched_of_integer hinteger).append [.word]
          exact ((hmatched.append_of_none hnoCounter).append_of_none hnoFlag).append_of_none hnoMark
        | none =>
          have hnoInteger : matchForms [.integer] text = none :=
            matchForms_single_of_none (by rw [length?_integer, hinteger]; rfl)
          cases hword : leadingWord text with
          | nil =>
            have hnoWord : matchForms [.word] text = none :=
              matchForms_single_of_none (congrArg spanLength? hword)
            exact matchForms_append_of_none hnoMark (matchForms_append_of_none hnoFlag
              (matchForms_append_of_none hnoCounter
                (matchForms_append_of_none hnoInteger hnoWord)))
          | cons c rest =>
            have hsome : leadingWord text ≠ [] := hword ▸ List.cons_ne_nil c rest
            have hmatched := isMatched_of_word hsome
            rw [hword] at hmatched
            exact (((hmatched.append_of_none hnoInteger).append_of_none
              hnoCounter).append_of_none hnoFlag).append_of_none hnoMark

/-- What is skipped is not looked at. -/
theorem scanFrom_drop (whole : List Char) (column skip : Nat) (text : List Char) :
    Token.scanFrom whole column skip text =
      Token.scanFrom whole (column + skip) 0 (text.drop skip) := by
  induction skip generalizing column text with
  | zero => rfl
  | succ skip ih =>
    cases text with
    | nil => rfl
    | cons c rest =>
      rw [Token.scanFrom, ih, List.drop_succ_cons]
      congr 1
      omega

namespace Granted

/-- Scanning step by step is scanning from token to token. -/
theorem scanFrom_eq (whole : List Char) (column : Nat) (text : List Char) :
    scanFrom whole column text = lapseFree (Token.scanFrom whole column 0 text) := by
  -- By induction on the length: the next place is where the token ends, not the next character.
  induction hlength : text.length using Nat.strongRecOn generalizing column text with
  | ind n ih =>
  cases text with
  | nil =>
    rw [scanFrom]
    rfl
  | cons c rest =>
    rw [scanFrom, Token.scanFrom]
    by_cases hblank : isBlank c = true
    · rw [if_pos hblank, if_pos hblank]
      exact ih rest.length (by rw [← hlength]; exact Nat.lt_succ_self _) _ rest rfl
    · rw [if_neg hblank, if_neg hblank]
      have hhead := matchForms_forms (c :: rest)
      cases hlexeme : lexeme? (c :: rest) with
      -- No token begins here, so no form fits, and the same character is rejected.
      | none =>
        rw [hlexeme] at hhead
        rw [hhead]
        rfl
      | some lexeme =>
        rw [hlexeme] at hhead
        obtain ⟨symbol, length⟩ := lexeme
        obtain ⟨hpos, kind, hmatch, hsymbol⟩ := hhead
        dsimp only at hpos hmatch hsymbol
        rw [hmatch]
        cases symbol with
        -- A word that stands for nothing is rejected with its column and its text.
        | none =>
          show (kind.symbol column ((c :: rest).take length) >>= _) = _
          rw [hsymbol]
          rfl
        | some symbol =>
          show (kind.symbol column ((c :: rest).take length) >>= _) = lapseFree (Except.map _ _)
          rw [hsymbol]
          -- Less is left after the token, since it takes a character.
          have hless : ((c :: rest).drop length).length < n := by
            rw [← hlength, List.length_drop, List.length_cons]
            omega
          have hrest : scanFrom whole (column + length) ((c :: rest).drop length) =
              lapseFree (Token.scanFrom whole (column + 1) (length - 1) rest) := by
            rw [ih _ hless _ _ rfl, scanFrom_drop whole (column + 1)]
            obtain ⟨taken, rfl⟩ : ∃ taken, length = taken + 1 := ⟨length - 1, by omega⟩
            rw [List.drop_succ_cons, Nat.add_sub_cancel, Nat.add_right_comm, Nat.add_assoc]
          show (if _h : 0 < length then _ else _) = _
          rw [dif_pos hpos, hrest, lapseFree_map]
          cases lapseFree (Token.scanFrom whole (column + 1) (length - 1) rest) <;> rfl

/-- Reads a condition that begins in column `column`. -/
def readCondition (column : Nat) (text : List Char) : Except (Mishap Flaw) Condition :=
  if isBlankText text then .error (.flaw (Flaw.at column text .missingCondition))
  else do
    let tokens ← scanFrom text column text
    lapseFree (readTokens (column + text.length) tokens)

/-- **Conditions are read without a lapse**, at any column. -/
theorem readCondition_eq (column : Nat) (text : List Char) :
    readCondition column text = lapseFree (Markup.readCondition column text) := by
  rw [readCondition, Markup.readCondition]
  split
  next => rfl
  next => rw [lapseFree_bind, Token.scan, scanFrom_eq]

end Granted

end Gamebook.Markup
