/-
  The pieces of a condition.

  What may be taken from a condition at once is a piece: what spells a symbol (`IsSpelled`), or a
  word, of which all but five spell nothing.  The reader of the head of a text tries one kind of
  piece after another and is content with the first that it finds.  Yet what it finds is the longest
  of all the pieces that stand there, and it finds nothing only where there is none
  (`isFound_of_lexeme?`).

  1. **The first character**: marks, numbers and words begin with different characters, so one
     character tells which pieces there can be (`IsPiece.sorts`) and which readers can find one
     (`lexeme?_of_isWordStart`, `lexeme?_of_not_isWordStart`).

  2. **Of one kind**, a reader takes the longest piece.  A longer mark is tried before the shorter
     one that it begins with, and of names, digits and words all characters are taken.

  3. **Of two kinds** only references and words share their first character.  A word that begins a
     reference ends before the colon, so it is shorter.

  That nothing spells two symbols is seen by reading it (`IsSpelled.unique`).
-/
import Gamebook.Proofs.DirectiveEffects
import Gamebook.Proofs.NarrativeRoundTrip

namespace Gamebook.Markup

open Gamebook.Text

/-! ## Pieces -/

/-- The marks and what they stand for. -/
def markTable : List (String × Symbol) :=
  [("(", .openParen), (")", .closeParen), ("<", .relation .less), ("<=", .relation .atMost),
   ("==", .relation .equal), ("!=", .relation .unequal), (">=", .relation .atLeast),
   (">", .relation .greater), ("&&", .and), ("||", .or), ("!", .not)]

/-- The words that stand for something, in small letters. -/
def wordTable : List (String × Symbol) :=
  [("and", .and), ("or", .or), ("not", .not), ("true", .truth true), ("false", .truth false)]

/-- What spells a symbol: a mark, a flag or a counter with its name, digits with a sign or without
    one, a word in capitals or in small letters. -/
inductive IsSpelled : List Char → Symbol → Prop
  | mark {mark : String} {symbol : Symbol} (h : (mark, symbol) ∈ markTable) :
      IsSpelled mark.toList symbol
  | flag {name : List Char} (hname : isName name = true) :
      IsSpelled ("flag:".toList ++ name) (.flag (String.ofList name))
  | counter {name : List Char} (hname : isName name = true) :
      IsSpelled ("counter:".toList ++ name) (.counter (String.ofList name))
  | integer {digits : List Char} {n : Int} (h : SpellsInteger digits n) :
      IsSpelled digits (.integer n)
  | word {word : List Char} {small : String} {symbol : Symbol} (hword : isWord word = true)
      (hsmall : String.ofList (word.map Char.toLower) = small) (h : (small, symbol) ∈ wordTable) :
      IsSpelled word symbol

/-- What may be taken from a condition at once: a symbol, or any word. -/
def IsPiece (text : List Char) : Prop := (∃ symbol, IsSpelled text symbol) ∨ isWord text = true

/-- So many characters are the longest piece that the text begins with. -/
structure IsLongest (text : List Char) (length : Nat) : Prop where
  within : length ≤ text.length
  piece : IsPiece (text.take length)
  longest : ∀ other, IsPiece other → other <+: text → other.length ≤ length

/-! ## What pieces begin with

  Three kinds of characters begin a piece, and no character is of two kinds.  Apart from the digits
  that are not of ASCII this is a matter of code points, and those digits stand far behind all the
  others. -/

/-- The characters that marks begin with. -/
def markHeads : List Char := ['(', ')', '<', '>', '=', '!', '&', '|']

/-- A sign or a decimal digit. -/
def IsNumberHead (c : Char) : Prop := c = '+' ∨ c = '-' ∨ isDecimal c = true

/-- A digit is one of ASCII, or stands far behind ASCII. -/
theorem toNat_of_isDecimal {c : Char} (h : isDecimal c = true) :
    48 ≤ c.toNat ∧ c.toNat ≤ 57 ∨ 1632 ≤ c.toNat := by
  obtain ⟨value, hvalue⟩ := Option.isSome_iff_exists.1 h
  obtain ⟨start, hfind, -⟩ := Option.map_eq_some_iff.1 hvalue
  have hrange : start ≤ c.toNat ∧ c.toNat ≤ start + 9 := by simpa using List.find?_some hfind
  have hstart : start = 48 ∨ 1632 ≤ start := by
    have hall : ∀ start ∈ digitZeros, start = 48 ∨ 1632 ≤ start := by decide
    exact hall start (List.mem_of_find?_eq_some hfind)
  omega

/-- No digit is a blank: the runs of digits and those of blanks lie apart. -/
theorem not_isBlank_of_isDecimal {c : Char} (h : isDecimal c = true) : isBlank c = false := by
  obtain ⟨value, hvalue⟩ := Option.isSome_iff_exists.1 h
  obtain ⟨start, hfind, -⟩ := Option.map_eq_some_iff.1 hvalue
  have hrange : start ≤ c.toNat ∧ c.toNat ≤ start + 9 := by simpa using List.find?_some hfind
  have hapart : ∀ start ∈ digitZeros, ∀ run ∈ blankRuns, start + 9 < run.1 ∨ run.2 < start := by
    decide
  rw [← Bool.not_eq_true, isBlank, inRuns_iff]
  rintro ⟨run, hrun, hcovers⟩
  have hstart := hapart start (List.mem_of_find?_eq_some hfind) run hrun
  omega

/-- A word begins with a letter of ASCII or with the underscore. -/
theorem toNat_of_isWordStart {c : Char} (h : isWordStart c = true) :
    65 ≤ c.toNat ∧ c.toNat ≤ 122 := by
  rw [isWordStart, Bool.or_eq_true, beq_iff_eq] at h
  change (decide (65 ≤ c.val ∧ c.val ≤ 90) ||
    decide (97 ≤ c.val) && decide (c.val ≤ 122)) = true ∨ _ at h
  simp only [Bool.or_eq_true, Bool.and_eq_true, decide_eq_true_eq, UInt32.le_iff_toNat_le] at h
  change ((65 ≤ c.toNat ∧ c.toNat ≤ 90) ∨ 97 ≤ c.toNat ∧ c.toNat ≤ 122) ∨ _ at h
  rcases h with (h | h) | rfl
  · omega
  · omega
  · decide

/-- A number begins with a sign or a digit. -/
theorem toNat_of_isNumberHead {c : Char} (h : IsNumberHead c) :
    c.toNat = 43 ∨ c.toNat = 45 ∨ 48 ≤ c.toNat ∧ c.toNat ≤ 57 ∨ 1632 ≤ c.toNat := by
  rcases h with rfl | rfl | hdigit
  · exact .inl rfl
  · exact .inr (.inl rfl)
  · exact .inr (.inr (toNat_of_isDecimal hdigit))

/-- What a number begins with begins no word. -/
theorem not_isWordStart_of_isNumberHead {c : Char} (h : IsNumberHead c) :
    ¬ isWordStart c = true := by
  intro hstart
  have hletter := toNat_of_isWordStart hstart
  have hnumber := toNat_of_isNumberHead h
  omega

/-- The code points that marks begin with. -/
theorem toNat_of_mem_markHeads {c : Char} (h : c ∈ markHeads) :
    c.toNat < 42 ∨ 60 ≤ c.toNat ∧ c.toNat < 64 ∨ c.toNat = 124 := by
  have hall : markHeads.all (fun c =>
      c.toNat < 42 ∨ 60 ≤ c.toNat ∧ c.toNat < 64 ∨ c.toNat = 124) = true := by decide
  exact of_decide_eq_true (List.all_eq_true.1 hall c h)

/-- What a mark begins with begins no number. -/
theorem not_isNumberHead_of_mem_markHeads {c : Char} (h : c ∈ markHeads) : ¬ IsNumberHead c := by
  intro hnumber
  have hmark := toNat_of_mem_markHeads h
  have hcode := toNat_of_isNumberHead hnumber
  omega

/-- Nor does it begin a word. -/
theorem not_isWordStart_of_mem_markHeads {c : Char} (h : c ∈ markHeads) :
    ¬ isWordStart c = true := by
  intro hstart
  have hmark := toNat_of_mem_markHeads h
  have hletter := toNat_of_isWordStart hstart
  omega

/-- The name of a flag or a counter together with what tells which of the two it is. -/
def IsReference (piece : List Char) : Prop :=
  ∃ name, isName name = true ∧ (piece = "flag:".toList ++ name ∨ piece = "counter:".toList ++ name)

/-- A number begins with a sign or a digit. -/
theorem exists_head_of_spellsInteger {piece : List Char} {n : Int} (h : SpellsInteger piece n) :
    ∃ c rest, piece = c :: rest ∧ IsNumberHead c := by
  cases h with
  | unsigned h =>
    obtain ⟨hsome, hdigits, -⟩ := readNatural?_eq_some.1 (readNatural?_eq_some_iff.2 h)
    obtain ⟨c, rest, rfl⟩ := List.exists_cons_of_ne_nil hsome
    exact ⟨c, rest, rfl, .inr (.inr (hdigits c List.mem_cons_self))⟩
  | plus => exact ⟨_, _, rfl, .inl rfl⟩
  | minus => exact ⟨_, _, rfl, .inr (.inl rfl)⟩

/-- A piece is of one of three sorts, and its first character tells of which. -/
theorem IsPiece.sorts {piece : List Char} (h : IsPiece piece) :
    ∃ c rest, piece = c :: rest ∧
      (c ∈ markHeads ∧ (∃ entry ∈ markTable, piece = entry.1.toList) ∨
        IsNumberHead c ∧ (∃ n, SpellsInteger piece n) ∨
        isWordStart c = true ∧ (IsReference piece ∨ isWord piece = true)) := by
  have hword : isWord piece = true → ∃ c rest, piece = c :: rest ∧ isWordStart c = true := by
    intro h
    obtain ⟨c, rest, hpiece, hstart, -⟩ := exists_of_isWord h
    exact ⟨c, rest, hpiece, hstart⟩
  rcases h with ⟨symbol, h⟩ | h
  · cases h with
    | @mark mark symbol h =>
      have hhead : ∀ entry ∈ markTable, entry.1.toList.head?.any (· ∈ markHeads) = true := by
        decide
      obtain ⟨c, hc, hmem⟩ := Option.any_eq_true _ _ |>.1 (hhead _ h)
      obtain ⟨rest, hrest⟩ := List.head?_eq_some_iff.1 hc
      exact ⟨c, rest, hrest, .inl ⟨of_decide_eq_true hmem, _, h, rfl⟩⟩
    | flag hname =>
      exact ⟨_, _, rfl, .inr (.inr ⟨by decide, .inl ⟨_, hname, .inl rfl⟩⟩)⟩
    | counter hname =>
      exact ⟨_, _, rfl, .inr (.inr ⟨by decide, .inl ⟨_, hname, .inr rfl⟩⟩)⟩
    | integer h =>
      obtain ⟨c, rest, hpiece, hhead⟩ := exists_head_of_spellsInteger h
      exact ⟨c, rest, hpiece, .inr (.inl ⟨hhead, _, h⟩)⟩
    | word h =>
      obtain ⟨c, rest, hpiece, hstart⟩ := hword h
      exact ⟨c, rest, hpiece, .inr (.inr ⟨hstart, .inr h⟩)⟩
  · obtain ⟨c, rest, hpiece, hstart⟩ := hword h
    exact ⟨c, rest, hpiece, .inr (.inr ⟨hstart, .inr h⟩)⟩

section

variable {c : Char} {rest piece : List Char}

/-- Where a mark begins, a piece is a mark. -/
theorem IsPiece.mark (h : IsPiece piece) (hpre : piece <+: c :: rest) (hc : c ∈ markHeads) :
    ∃ entry ∈ markTable, piece = entry.1.toList := by
  obtain ⟨first, others, rfl, hsort⟩ := h.sorts
  obtain ⟨rfl, -⟩ := List.cons_prefix_cons.1 hpre
  rcases hsort with ⟨-, hmark⟩ | ⟨hnumber, -⟩ | ⟨hstart, -⟩
  · exact hmark
  · exact absurd hnumber (not_isNumberHead_of_mem_markHeads hc)
  · exact absurd hstart (not_isWordStart_of_mem_markHeads hc)

/-- Where a number begins, a piece is a number. -/
theorem IsPiece.number (h : IsPiece piece) (hpre : piece <+: c :: rest) (hc : IsNumberHead c) :
    ∃ n, SpellsInteger piece n := by
  obtain ⟨first, others, rfl, hsort⟩ := h.sorts
  obtain ⟨rfl, -⟩ := List.cons_prefix_cons.1 hpre
  rcases hsort with ⟨hmark, -⟩ | ⟨-, hnumber⟩ | ⟨hstart, -⟩
  · exact absurd hc (not_isNumberHead_of_mem_markHeads hmark)
  · exact hnumber
  · exact absurd hstart (not_isWordStart_of_isNumberHead hc)

/-- Where a word begins, a piece is a reference or a word. -/
theorem IsPiece.letters (h : IsPiece piece) (hpre : piece <+: c :: rest)
    (hc : isWordStart c = true) : IsReference piece ∨ isWord piece = true := by
  obtain ⟨first, others, rfl, hsort⟩ := h.sorts
  obtain ⟨rfl, -⟩ := List.cons_prefix_cons.1 hpre
  rcases hsort with ⟨hmark, -⟩ | ⟨hnumber, -⟩ | ⟨-, hletters⟩
  · exact absurd hc (not_isWordStart_of_mem_markHeads hmark)
  · exact absurd hc (not_isWordStart_of_isNumberHead hnumber)
  · exact hletters

end

/-- No piece begins with a blank. -/
theorem IsPiece.not_isBlank {c : Char} {rest : List Char} (h : IsPiece (c :: rest)) :
    isBlank c = false := by
  obtain ⟨first, others, hcons, hsort⟩ := h.sorts
  cases hcons
  rcases hsort with ⟨hmark, -⟩ | ⟨hnumber | hnumber | hdigit, -⟩ | ⟨hstart, -⟩
  · have hall : markHeads.all (fun c => !isBlank c) = true := by decide
    simpa using List.all_eq_true.1 hall c hmark
  · rw [hnumber]
    decide
  · rw [hnumber]
    decide
  · exact not_isBlank_of_isDecimal hdigit
  · have hletter := toNat_of_isWordStart hstart
    exact isBlank_of_visible (by omega)

/-! ## Marks

  Some marks are the beginning of others.  The reader tries the longer one first, and the shorter
  one only if the second character rules the longer one out. -/

/-- Where a mark stands, one is found, though perhaps a longer one. -/
theorem leadingMark?_of_mem {entry : String × Symbol} (h : entry ∈ markTable) (rest : List Char) :
    leadingMark? (entry.1.toList ++ rest) ≠ none := by
  have hmarks : ∀ entry ∈ markTable, ∃ mark ∈ marks, mark.2 = entry.1 := by decide
  obtain ⟨mark, hmark, hname⟩ := hmarks entry h
  rw [← hname]
  exact leadingMark?_ne_none hmark rest

/-- A longer mark ends in an equals sign, or consists of one character twice. -/
theorem length_of_mark {entry : String × Symbol} {c : Char} {rest : List Char}
    (hentry : entry ∈ markTable) (hpre : entry.1.toList <+: c :: rest)
    (hc : c ∈ ['(', ')'] ∨ c ∈ ['<', '>', '!'] ∧ ∀ tail, rest ≠ '=' :: tail) :
    entry.1.toList.length ≤ 1 := by
  have hlonger : ∀ entry ∈ markTable, entry.1.toList.length ≤ 1 ∨
      entry.1.toList.head? ∈ [some '&', some '|'] ∨
      entry.1.toList.head? ∉ [some '(', some ')'] ∧ entry.1.toList.tail = ['='] := by decide
  rcases hlonger entry hentry with hone | hlonger
  · exact hone
  · cases hmark : entry.1.toList with
    | nil => exact Nat.zero_le 1
    | cons first others =>
      rw [hmark] at hpre hlonger
      obtain ⟨rfl, hothers⟩ := List.cons_prefix_cons.1 hpre
      rw [List.head?_cons, List.tail_cons] at hlonger
      rcases hlonger with htwice | ⟨hhead, rfl⟩
      · have hapart : (['(', ')'] ++ ['<', '>', '!']).all
            (fun head => some head ∉ [some '&', some '|']) = true := by decide
        have hfirst : first ∈ ['(', ')'] ++ ['<', '>', '!'] :=
          List.mem_append.2 (hc.imp_right And.left)
        exact absurd htwice (of_decide_eq_true (List.all_eq_true.1 hapart first hfirst))
      · rcases hc with hc | ⟨-, hnext⟩
        · exact absurd (List.mem_map_of_mem hc) hhead
        · obtain ⟨tail, rfl⟩ := hothers
          exact absurd rfl (hnext tail)

/-- The longest mark is found. -/
theorem exists_of_leadingMark? {text : List Char} {symbol : Symbol} {length : Nat}
    (h : leadingMark? text = some (symbol, length)) :
    ∃ mark, (mark, symbol) ∈ markTable ∧ mark.toList <+: text ∧ mark.toList.length = length ∧
      ∀ entry ∈ markTable, entry.1.toList <+: text → entry.1.toList.length ≤ length := by
  have htwo : ∀ entry ∈ markTable, entry.1.toList.length ≤ 2 := by decide
  rw [leadingMark?.eq_def] at h
  -- One case for each mark, in the order of the reader. No mark is longer than two characters.
  split at h <;> cases h
  · exact ⟨"(", by decide, ⟨_, rfl⟩, rfl, fun _ hentry hpre =>
      length_of_mark hentry hpre (.inl (by decide))⟩
  · exact ⟨")", by decide, ⟨_, rfl⟩, rfl, fun _ hentry hpre =>
      length_of_mark hentry hpre (.inl (by decide))⟩
  · exact ⟨"<=", by decide, ⟨_, rfl⟩, rfl, fun entry hentry _ => htwo entry hentry⟩
  · exact ⟨">=", by decide, ⟨_, rfl⟩, rfl, fun entry hentry _ => htwo entry hentry⟩
  · exact ⟨"==", by decide, ⟨_, rfl⟩, rfl, fun entry hentry _ => htwo entry hentry⟩
  · exact ⟨"!=", by decide, ⟨_, rfl⟩, rfl, fun entry hentry _ => htwo entry hentry⟩
  · rename_i hnext
    exact ⟨"<", by decide, ⟨_, rfl⟩, rfl, fun _ hentry hpre =>
      length_of_mark hentry hpre (.inr ⟨by decide, hnext⟩)⟩
  · rename_i hnext
    exact ⟨">", by decide, ⟨_, rfl⟩, rfl, fun _ hentry hpre =>
      length_of_mark hentry hpre (.inr ⟨by decide, hnext⟩)⟩
  · exact ⟨"&&", by decide, ⟨_, rfl⟩, rfl, fun entry hentry _ => htwo entry hentry⟩
  · exact ⟨"||", by decide, ⟨_, rfl⟩, rfl, fun entry hentry _ => htwo entry hentry⟩
  · rename_i hnext
    exact ⟨"!", by decide, ⟨_, rfl⟩, rfl, fun _ hentry hpre =>
      length_of_mark hentry hpre (.inr ⟨by decide, hnext⟩)⟩

/-! ## Names, numbers and words

  What is taken of a kind is as long as anything of this kind that stands there. -/

/-- What begins a text and holds characters of a kind only is taken with all of them. -/
theorem length_le_takeWhile {p : Char → Bool} {text piece : List Char} (hpre : piece <+: text)
    (hpiece : ∀ c ∈ piece, p c = true) : piece.length ≤ (text.takeWhile p).length := by
  obtain ⟨rest, rfl⟩ := hpre
  rw [List.takeWhile_append_of_pos hpiece, List.length_append]
  exact Nat.le_add_right _ _

/-- No name at the head of a text is longer than the one that is taken. -/
theorem length_le_leadingName {text name : List Char} (hname : isName name = true)
    (hpre : name <+: text) : name.length ≤ (leadingName text).length := by
  cases name with
  | nil => cases hname
  | cons c others =>
    rw [isName, Bool.and_eq_true] at hname
    obtain ⟨rest, rfl⟩ := hpre
    rw [List.cons_append, leadingName, if_pos hname.1]
    have hothers := length_le_takeWhile (List.prefix_append others rest)
      (List.all_eq_true.1 hname.2)
    exact Nat.succ_le_succ hothers

/-- No word is longer than the one that is taken. -/
theorem length_le_leadingWord {text word : List Char} (hword : isWord word = true)
    (hpre : word <+: text) : word.length ≤ (leadingWord text).length := by
  obtain ⟨c, others, rfl, hstart, hothers⟩ := exists_of_isWord hword
  obtain ⟨rest, rfl⟩ := hpre
  rw [List.cons_append, leadingWord, if_pos hstart]
  have hlength := length_le_takeWhile (List.prefix_append others rest)
    (List.all_eq_true.1 hothers)
  exact Nat.succ_le_succ hlength

/-- What is taken for a word is one. -/
theorem isWord_leadingWord {text : List Char} (h : leadingWord text ≠ []) :
    isWord (leadingWord text) = true := by
  cases text with
  | nil => exact absurd rfl h
  | cons c rest =>
    rw [leadingWord] at h ⊢
    split at h
    next hstart =>
      rw [if_pos hstart, isWord, hstart, Bool.true_and]
      exact List.all_takeWhile
    next => exact absurd rfl h

/-- No number is longer than the one that is taken, be it with a sign or without. -/
theorem length_le_leadingNumber {text piece : List Char} {n : Int} (h : SpellsInteger piece n)
    (hpre : piece <+: text) : piece.length ≤ (leadingNumber text).length := by
  obtain ⟨rest, rfl⟩ := hpre
  -- Behind a sign there is a digit, so the sign is taken as well.
  have hsigned : ∀ sign digits k, (sign = '+' ∨ sign = '-') → SpellsNatural digits k →
      (sign :: digits).length ≤ (leadingNumber (sign :: digits ++ rest)).length := by
    intro sign digits k hsign hdigits
    have hlength := length_le_takeWhile (List.prefix_append digits rest) hdigits.isDecimal
    have hpos : 0 < digits.length :=
      List.length_pos_iff.2 (readNatural?_eq_some.1 (readNatural?_eq_some_iff.2 hdigits)).1
    have hsome : ¬ ((digits ++ rest).takeWhile isDecimal).isEmpty = true := by
      intro hempty
      rw [List.isEmpty_iff.1 hempty, List.length_nil] at hlength
      omega
    rw [List.cons_append, leadingNumber, if_pos (by simpa using hsign)]
    dsimp only
    rw [if_neg hsome]
    exact Nat.succ_le_succ hlength
  cases h with
  | unsigned h =>
    cases piece with
    | nil => exact Nat.zero_le _
    | cons c others =>
      have hlength := length_le_takeWhile (List.prefix_append (c :: others) rest) h.isDecimal
      rw [List.cons_append] at hlength ⊢
      rw [leadingNumber, if_neg (by simpa using h.not_sign.symm)]
      exact hlength
  | plus h => exact hsigned '+' _ _ (.inl rfl) h
  | minus h => exact hsigned '-' _ _ (.inr rfl) h

/-- Where no number is read, there is none to be read. -/
theorem leadingNumber_of_leadingInteger? {text : List Char} (h : leadingInteger? text = none) :
    leadingNumber text = [] := by
  by_contra hsome
  have hread := readInteger?_isSome (leadingNumber text)
  rw [Option.map_eq_none_iff.1 h, isNumeral_leadingNumber hsome] at hread
  cases hread

/-! ## Which piece is found -/

/-- A word has no symbol but its own. -/
theorem wordSymbol?_eq_some_iff {word : List Char} {symbol : Symbol} :
    wordSymbol? word = some symbol ↔
      ∃ small, String.ofList (word.map Char.toLower) = small ∧ (small, symbol) ∈ wordTable := by
  rw [wordSymbol?]
  generalize String.ofList (word.map Char.toLower) = small
  simp only [wordTable, exists_eq_left', List.mem_cons, List.not_mem_nil, Prod.mk.injEq, or_false]
  constructor
  · intro h
    split_ifs at h <;> cases h <;> simp_all
  · rintro (⟨rfl, rfl⟩ | ⟨rfl, rfl⟩ | ⟨rfl, rfl⟩ | ⟨rfl, rfl⟩ | ⟨rfl, rfl⟩) <;> rfl

/-! ## What is found, by the first character

  So of the four readers two are ruled out at once, whichever character comes first. -/

theorem leadingMark?_of_not_mem {c : Char} {rest : List Char} (hc : c ∉ markHeads) :
    leadingMark? (c :: rest) = none := by
  by_contra hmark
  exact hc (mem_of_leadingMark? hmark)

/-- Where neither a sign nor a digit stands there is no number. -/
theorem leadingInteger?_of_not_isNumberHead {c : Char} {rest : List Char} (hc : ¬ IsNumberHead c) :
    leadingInteger? (c :: rest) = none := by
  have hnil : leadingNumber (c :: rest) = [] := by
    rw [leadingNumber, if_neg, List.takeWhile_cons_of_neg]
    · exact fun hdigit => hc (.inr (.inr hdigit))
    · intro hsign
      rw [Bool.or_eq_true, decide_eq_true_iff, decide_eq_true_iff] at hsign
      exact hc (hsign.imp_right .inl)
  rw [leadingInteger?, hnil]
  rfl

/-- Where no letter stands there is no reference. -/
theorem leadingReference?_of_not_isWordStart {c : Char} (rest : List Char)
    (hc : ¬ isWordStart c = true) :
    leadingReference? "flag:".toList .flag (c :: rest) = none ∧
      leadingReference? "counter:".toList .counter (c :: rest) = none := by
  constructor
  · refine leadingReference?_of_ne _ _ _ ?_
    rintro rfl
    exact hc (by decide)
  · refine leadingReference?_of_ne _ _ _ ?_
    rintro rfl
    exact hc (by decide)

/-- A symbol that was read, as what is found. -/
def Lexeme.ofSymbol (found : Symbol × Nat) : Lexeme := ⟨some found.1, found.2⟩

/-- A word, as what is found. -/
def Lexeme.ofWord (word : List Char) : Lexeme := ⟨wordSymbol? word, word.length⟩

/-- Apart from letters, a text begins with a mark or a number. -/
theorem lexeme?_of_not_isWordStart {c : Char} (rest : List Char) (hc : ¬ isWordStart c = true) :
    lexeme? (c :: rest) =
      (leadingMark? (c :: rest) <|> leadingInteger? (c :: rest)).map .ofSymbol := by
  obtain ⟨hflag, hcounter⟩ := leadingReference?_of_not_isWordStart rest hc
  have hword : leadingWord (c :: rest) = [] := if_neg hc
  rw [lexeme?, hflag, hcounter, hword]
  cases leadingMark? (c :: rest) with
  | some found => rfl
  | none => cases leadingInteger? (c :: rest) <;> rfl

/-- With a letter, a text begins with a reference or a word. -/
theorem lexeme?_of_isWordStart {c : Char} (rest : List Char) (hc : isWordStart c = true) :
    lexeme? (c :: rest) =
      ((leadingReference? "flag:".toList .flag (c :: rest) <|>
        leadingReference? "counter:".toList .counter (c :: rest)).map Lexeme.ofSymbol).or
          (some (.ofWord (leadingWord (c :: rest)))) := by
  have hmark : leadingMark? (c :: rest) = none :=
    leadingMark?_of_not_mem fun hmark => not_isWordStart_of_mem_markHeads hmark hc
  have hnumber : leadingInteger? (c :: rest) = none :=
    leadingInteger?_of_not_isNumberHead fun hnumber => not_isWordStart_of_isNumberHead hnumber hc
  have hword : (leadingWord (c :: rest)).isEmpty = false := by
    rw [leadingWord, if_pos hc]
    rfl
  rw [lexeme?, hmark, hnumber]
  cases leadingReference? "flag:".toList .flag (c :: rest) with
  | some found => rfl
  | none =>
    cases leadingReference? "counter:".toList .counter (c :: rest) with
    | some found => rfl
    | none =>
      dsimp only
      rw [hword]
      rfl

/-! ## What is found spells its symbol, and nothing else does

  A piece that stands alone is found whole.  That gives the symbol that it spells, and as the reader
  gives one answer only, there is no other. -/

/-- A word is found whole. -/
theorem lexeme?_of_isWord {word : List Char} (h : isWord word = true) :
    lexeme? word = some (.ofWord word) := by
  obtain ⟨c, rest, rfl, hstart, hrest⟩ := exists_of_isWord h
  have hreference : ∀ mark make, ':' ∈ mark → leadingReference? mark make (c :: rest) = none := by
    intro mark make hmark
    by_contra hfound
    obtain ⟨⟨symbol, length⟩, hsome⟩ := Option.ne_none_iff_exists'.1 hfound
    obtain ⟨name, -, htake, -⟩ := take_of_leadingReference? hsome
    have hcolon : ':' ∈ (c :: rest).take length := htake ▸ List.mem_append_left _ hmark
    exact absurd (isWordChar_of_mem h (List.mem_of_mem_take hcolon)) (by decide)
  have hword : leadingWord (c :: rest) = c :: rest := by
    rw [leadingWord, if_pos hstart, List.takeWhile_eq_self_iff.2 (List.all_eq_true.1 hrest)]
  rw [lexeme?_of_isWordStart rest hstart, hreference _ _ (by decide), hreference _ _ (by decide),
    hword]
  rfl

/-- A number is found whole. -/
theorem lexeme?_of_spellsInteger {piece : List Char} {n : Int} (h : SpellsInteger piece n) :
    lexeme? piece = some ⟨some (.integer n), piece.length⟩ := by
  obtain ⟨c, rest, rfl, hhead⟩ := exists_head_of_spellsInteger h
  have hwhole : leadingNumber (c :: rest) = c :: rest :=
    (leadingNumber_isPrefix _).eq_of_length_le (length_le_leadingNumber h List.prefix_rfl)
  have hinteger : leadingInteger? (c :: rest) = some (.integer n, (c :: rest).length) := by
    rw [leadingInteger?, hwhole, readInteger?_eq_some_iff.2 h]
    rfl
  rw [lexeme?_of_not_isWordStart rest (not_isWordStart_of_isNumberHead hhead), hinteger,
    leadingMark?_of_not_mem fun hmark => not_isNumberHead_of_mem_markHeads hmark hhead]
  rfl

/-- What spells a symbol is found whole, and as that symbol. -/
theorem lexeme?_of_isSpelled {piece : List Char} {symbol : Symbol} (h : IsSpelled piece symbol) :
    lexeme? piece = some ⟨some symbol, piece.length⟩ := by
  cases h with
  | mark h =>
    have hmarks : ∀ entry ∈ markTable,
        lexeme? entry.1.toList = some ⟨some entry.2, entry.1.toList.length⟩ := by decide
    exact hmarks _ h
  | flag hname =>
    have hfound := lexeme?_flag hname isBreak_nil
    rwa [List.append_nil] at hfound
  | counter hname =>
    have hfound := lexeme?_counter hname isBreak_nil
    rwa [List.append_nil] at hfound
  | word hword hsmall h =>
    rw [lexeme?_of_isWord hword, Lexeme.ofWord, wordSymbol?_eq_some_iff.2 ⟨_, hsmall, h⟩]
  | integer h => exact lexeme?_of_spellsInteger h

/-- What spells a symbol spells no other. -/
theorem IsSpelled.unique {piece : List Char} {symbol other : Symbol} (h : IsSpelled piece symbol)
    (hother : IsSpelled piece other) : symbol = other := by
  have hfound := (lexeme?_of_isSpelled h).symm.trans (lexeme?_of_isSpelled hother)
  rw [Option.some.injEq, Lexeme.mk.injEq, Option.some.injEq] at hfound
  exact hfound.1

/-! ## What is found is the longest piece

  Here everything comes together: by its first character each other piece at the same place is of
  the same kind, or is a word where a reference was found, or the other way round. -/

/-- A mark that was found is the longest piece, for all pieces there are marks. -/
theorem isLongest_of_mark {c : Char} {rest : List Char} {symbol : Symbol} {length : Nat}
    (hc : c ∈ markHeads) (h : leadingMark? (c :: rest) = some (symbol, length)) :
    IsLongest (c :: rest) length ∧ IsSpelled ((c :: rest).take length) symbol := by
  obtain ⟨mark, hmem, hpre, rfl, hlongest⟩ := exists_of_leadingMark? h
  have hspelled : IsSpelled ((c :: rest).take mark.toList.length) symbol := by
    rw [← List.prefix_iff_eq_take.1 hpre]
    exact .mark hmem
  refine ⟨⟨hpre.length_le, .inl ⟨symbol, hspelled⟩, fun other hother hprefix => ?_⟩, hspelled⟩
  obtain ⟨entry, hentry, rfl⟩ := hother.mark hprefix hc
  exact hlongest entry hentry hprefix

/-- A number that was found is the longest piece, for all pieces there are numbers. -/
theorem isLongest_of_number {c : Char} {rest : List Char} {symbol : Symbol} {length : Nat}
    (hc : IsNumberHead c) (h : leadingInteger? (c :: rest) = some (symbol, length)) :
    IsLongest (c :: rest) length ∧ IsSpelled ((c :: rest).take length) symbol := by
  obtain ⟨n, hread, hfound⟩ := Option.map_eq_some_iff.1 h
  cases hfound
  have hpre := leadingNumber_isPrefix (c :: rest)
  have hspelled : IsSpelled ((c :: rest).take (leadingNumber (c :: rest)).length)
      (.integer n) := by
    rw [← List.prefix_iff_eq_take.1 hpre]
    exact .integer (readInteger?_eq_some_iff.1 hread)
  refine ⟨⟨hpre.length_le, .inl ⟨_, hspelled⟩, fun other hother hprefix => ?_⟩, hspelled⟩
  obtain ⟨m, hspells⟩ := hother.number hprefix hc
  exact length_le_leadingNumber hspells hprefix

/-- A word that begins a reference ends before the colon. -/
theorem length_lt_of_isWord {stem rest word : List Char}
    (hstem : ∀ c ∈ stem, isWordChar c = true) (hword : isWord word = true)
    (hpre : word <+: stem ++ ':' :: rest) : word.length < (stem ++ [':']).length := by
  have hlength := length_le_takeWhile hpre fun c => isWordChar_of_mem hword
  rw [List.takeWhile_append_of_pos hstem, List.takeWhile_cons_of_neg (by decide),
    List.append_nil] at hlength
  rw [List.length_append]
  exact Nat.lt_succ_of_le hlength

/-- A reference is found together with the longest name, if the two kinds of references begin with
    different characters. -/
theorem isLongest_of_reference (c : Char) (stem : List Char) {text : List Char}
    {make : String → Symbol} {symbol : Symbol} {length : Nat} (hstart : isWordStart c = true)
    (hstem : (c :: stem).all isWordChar = true)
    (hspells : ∀ name, isName name = true →
      IsSpelled (c :: stem ++ [':'] ++ name) (make (String.ofList name)))
    (hown : ∀ rest, IsReference (c :: rest) → ∃ name, isName name = true ∧
      c :: rest = c :: stem ++ [':'] ++ name)
    (h : leadingReference? (c :: stem ++ [':']) make text = some (symbol, length)) :
    IsLongest text length ∧ IsSpelled (text.take length) symbol := by
  rw [leadingReference?] at h
  split at h
  next => cases h
  next rest hrest =>
    obtain rfl := afterPrefix?_eq_some hrest
    dsimp only at h
    split at h
    next => cases h
    next hname =>
      cases h
      have hpre := leadingName_isPrefix rest
      have hall : c :: stem ++ [':'] ++ leadingName rest <+: c :: stem ++ [':'] ++ rest :=
        (List.prefix_append_right_inj _).2 hpre
      have hspelled : IsSpelled
          ((c :: stem ++ [':'] ++ rest).take (c :: stem ++ [':'] ++ leadingName rest).length)
          (make (String.ofList (leadingName rest))) := by
        rw [← List.prefix_iff_eq_take.1 hall]
        exact hspells _ (isName_leadingName (Bool.not_eq_true _ ▸ hname))
      rw [← List.length_append]
      refine ⟨⟨hall.length_le, .inl ⟨_, hspelled⟩, fun other hother hprefix => ?_⟩, hspelled⟩
      have hcons : other <+: c :: (stem ++ [':'] ++ rest) := hprefix
      -- Another reference has a name that is no longer; a word ends before the colon.
      rcases hother.letters hcons hstart with href | hword
      · obtain ⟨others, rfl⟩ : ∃ others, other = c :: others := by
          obtain ⟨d, others, rfl, -⟩ := hother.sorts
          exact ⟨others, by rw [(List.cons_prefix_cons.1 hprefix).1]⟩
        obtain ⟨name, hname, hcons⟩ := hown others href
        rw [hcons] at hprefix ⊢
        have hlonger := length_le_leadingName hname ((List.prefix_append_right_inj _).1 hprefix)
        rw [List.length_append, @List.length_append _ _ (leadingName rest)]
        exact Nat.add_le_add_left hlonger _
      · have hpre : other <+: c :: stem ++ ':' :: rest := by
          simpa using hprefix
        have hless := length_lt_of_isWord (List.all_eq_true.1 hstem) hword hpre
        rw [List.length_append]
        omega

/-- A flag that was found is the longest piece, as no counter stands there. -/
theorem isLongest_of_flag {text : List Char} {symbol : Symbol} {length : Nat}
    (h : leadingReference? "flag:".toList .flag text = some (symbol, length)) :
    IsLongest text length ∧ IsSpelled (text.take length) symbol := by
  refine isLongest_of_reference 'f' "lag".toList (by decide) (by decide)
    (fun name hname => .flag hname) (fun rest href => ?_) h
  obtain ⟨name, hname, hflag | hcounter⟩ := href
  · exact ⟨name, hname, hflag⟩
  · exact absurd (List.cons.inj hcounter).1 (by decide)

/-- A counter that was found is the longest piece, as no flag stands there. -/
theorem isLongest_of_counter {text : List Char} {symbol : Symbol} {length : Nat}
    (h : leadingReference? "counter:".toList .counter text = some (symbol, length)) :
    IsLongest text length ∧ IsSpelled (text.take length) symbol := by
  refine isLongest_of_reference 'c' "ounter".toList (by decide) (by decide)
    (fun name hname => .counter hname) (fun rest href => ?_) h
  obtain ⟨name, hname, hflag | hcounter⟩ := href
  · exact absurd (List.cons.inj hflag).1 (by decide)
  · exact ⟨name, hname, hcounter⟩

/-- Where a reference stands, one is found. -/
theorem leadingReference?_ne_none (mark : List Char) (make : String → Symbol)
    {name text : List Char} (hname : isName name = true) (hpre : mark ++ name <+: text) :
    leadingReference? mark make text ≠ none := by
  obtain ⟨rest, rfl⟩ := hpre
  have hlonger := length_le_leadingName hname (List.prefix_append name rest)
  have hsome : ¬ (leadingName (name ++ rest)).isEmpty = true := by
    intro hempty
    rw [List.isEmpty_iff.1 hempty] at hlonger
    rw [List.length_eq_zero_iff.1 (Nat.le_zero.1 hlonger)] at hname
    cases hname
  rw [leadingReference?, List.append_assoc, afterPrefix?_append]
  dsimp only
  rw [if_neg hsome]
  exact Option.some_ne_none _

/-- Where no reference is found, a word is the longest piece. -/
theorem isLongest_of_word {c : Char} {rest : List Char} (hc : isWordStart c = true)
    (hflag : leadingReference? "flag:".toList .flag (c :: rest) = none)
    (hcounter : leadingReference? "counter:".toList .counter (c :: rest) = none) :
    IsLongest (c :: rest) (leadingWord (c :: rest)).length ∧
      (c :: rest).take (leadingWord (c :: rest)).length = leadingWord (c :: rest) ∧
      isWord (leadingWord (c :: rest)) = true := by
  have hpre := leadingWord_isPrefix (c :: rest)
  have htake := (List.prefix_iff_eq_take.1 hpre).symm
  have hword : isWord (leadingWord (c :: rest)) = true := by
    refine isWord_leadingWord ?_
    rw [leadingWord, if_pos hc]
    exact List.cons_ne_nil _ _
  refine ⟨⟨hpre.length_le, .inr (htake.symm ▸ hword), fun other hother hprefix => ?_⟩, htake, hword⟩
  rcases hother.letters hprefix hc with ⟨name, hname, rfl | rfl⟩ | hother
  · exact absurd hflag (leadingReference?_ne_none _ _ hname hprefix)
  · exact absurd hcounter (leadingReference?_ne_none _ _ hname hprefix)
  · exact length_le_leadingWord hother hprefix

/-- What was found is the longest piece at the head of the text, and its symbol is the one that it
    spells, if it spells one. -/
structure Lexeme.IsFound (text : List Char) (lexeme : Lexeme) : Prop where
  longest : IsLongest text lexeme.length
  symbol : ∀ symbol, lexeme.symbol = some symbol ↔ IsSpelled (text.take lexeme.length) symbol

/-- What spells the symbol that was found, and is the longest piece, is what was found. -/
theorem Lexeme.IsFound.ofSymbol {text : List Char} {symbol : Symbol} {length : Nat}
    (h : IsLongest text length ∧ IsSpelled (text.take length) symbol) :
    Lexeme.IsFound text (.ofSymbol (symbol, length)) where
  longest := h.1
  symbol other := by
    rw [Lexeme.ofSymbol, Option.some.injEq]
    constructor
    · rintro rfl
      exact h.2
    · exact h.2.unique

/-- A word spells what it is taken for, if anything. -/
theorem isSpelled_iff_of_isWord {word : List Char} (h : isWord word = true) {symbol : Symbol} :
    IsSpelled word symbol ↔ wordSymbol? word = some symbol := by
  constructor
  · intro hspelled
    have hfound := (lexeme?_of_isWord h).symm.trans (lexeme?_of_isSpelled hspelled)
    rw [Option.some.injEq, Lexeme.ofWord, Lexeme.mk.injEq] at hfound
    exact hfound.1
  · intro hsymbol
    obtain ⟨small, hsmall, hmem⟩ := wordSymbol?_eq_some_iff.1 hsymbol
    exact .word h hsmall hmem

/-- **The head of a text**: what is found there is the longest piece, and nothing is found only
    where no piece stands. -/
theorem isFound_of_lexeme? (text : List Char) :
    match lexeme? text with
    | some lexeme => lexeme.IsFound text
    | none => ∀ piece, piece <+: text → ¬ IsPiece piece := by
  cases text with
  | nil =>
    rintro piece hpre hpiece
    obtain ⟨c, rest, rfl, -⟩ := hpiece.sorts
    exact absurd (List.prefix_nil.1 hpre) (List.cons_ne_nil c rest)
  | cons c rest =>
  -- The first character is a letter, and then there is a piece; or it is none, and there may be
  -- none.
  by_cases hletter : isWordStart c = true
  · rw [lexeme?_of_isWordStart rest hletter]
    cases hflag : leadingReference? "flag:".toList .flag (c :: rest) with
    | some found => exact .ofSymbol (isLongest_of_flag hflag)
    | none =>
      cases hcounter : leadingReference? "counter:".toList .counter (c :: rest) with
      | some found => exact .ofSymbol (isLongest_of_counter hcounter)
      | none =>
        obtain ⟨hlongest, htake, hword⟩ := isLongest_of_word hletter hflag hcounter
        refine ⟨hlongest, fun symbol => ?_⟩
        show wordSymbol? (leadingWord (c :: rest)) = some symbol ↔
          IsSpelled ((c :: rest).take (leadingWord (c :: rest)).length) symbol
        rw [htake]
        exact (isSpelled_iff_of_isWord hword).symm
  · rw [lexeme?_of_not_isWordStart rest hletter]
    cases hmark : leadingMark? (c :: rest) with
    | some found =>
      have hc : c ∈ markHeads := mem_of_leadingMark? (hmark ▸ Option.some_ne_none found)
      exact .ofSymbol (isLongest_of_mark hc hmark)
    | none =>
      cases hinteger : leadingInteger? (c :: rest) with
      | some found =>
        have hc : IsNumberHead c := by
          by_contra hc
          rw [leadingInteger?_of_not_isNumberHead hc] at hinteger
          cases hinteger
        exact .ofSymbol (isLongest_of_number hc hinteger)
      | none =>
        intro piece hpre hpiece
        obtain ⟨d, others, rfl, ⟨-, entry, hentry, hpiece⟩ | ⟨-, n, hspells⟩ | ⟨hstart, -⟩⟩ :=
          hpiece.sorts
        · obtain ⟨tail, htail⟩ := hpre
          rw [← htail, hpiece] at hmark
          exact leadingMark?_of_mem hentry tail hmark
        · have hlonger := length_le_leadingNumber hspells hpre
          rw [leadingNumber_of_leadingInteger? hinteger] at hlonger
          exact absurd hlonger (Nat.not_succ_le_zero _)
        · rw [(List.cons_prefix_cons.1 hpre).1] at hstart
          exact hletter hstart

end Gamebook.Markup
