/-
  Writing a condition down and reading it again gives the same condition.

  1. **What can be written**: `Condition.IsWritable` holds of the conditions whose flags and
     counters have names and whose comparisons are comparisons.  Every condition that was read is
     one of them (`isWritable_of_readCondition`).

  2. **Scanning**: what `describe` writes is put together from pieces, each of which is a symbol or
     a blank.  A piece is taken whole whatever follows it, if that begins with one of the marks that
     `describe` puts behind a piece (`IsBreak`): none of them can prolong a name, a word or a
     number.  So the symbols of a text are those of its pieces in a row (`ScansAs.append`).

  3. **Reading**: the symbols spell a phrase that stands for the condition that was written, and the
     reader of conditions reads what is spelled.

  Nothing is said of how a scanner goes on after a piece, other than through `IsBreak`.  So the
  lemmas about pieces can be put together in any order in which each piece is followed by a break,
  and this is how `describe` puts its pieces together: with blanks, closing parentheses and `==`
  between them.
-/
import Gamebook.Proofs.ConditionReading

namespace Gamebook

open Markup Text

/-- The condition can be written in the notation of story files. -/
def Condition.IsWritable : Condition → Prop
  | flag name _ => isName name.toList = true
  | counter name comparison _ =>
    isName name.toList = true ∧ ∀ symbol, comparison ≠ .other symbol
  | not operand => operand.IsWritable
  | and left right | or left right => left.IsWritable ∧ right.IsWritable
  | unknown _ => False

namespace Markup

/-! ## Where a symbol ends

  Names, words and numbers are taken as far as they go.  In front of a break they go no further than
  they were written. -/

/-- The text is at its end, or goes on with a mark that ends a name, a word and a number. -/
def IsBreak (rest : List Char) : Prop := ∀ c, rest.head? = some c → c = ' ' ∨ c = ')' ∨ c = '='

theorem isBreak_nil : IsBreak [] := nofun

/-- Of a text before a break, the characters of a kind that no break has are all taken. -/
theorem takeWhile_of_isBreak {p : Char → Bool} {body rest : List Char} (hrest : IsBreak rest)
    (hbody : ∀ c ∈ body, p c = true) (hblank : p ' ' = false) (hparen : p ')' = false)
    (hequal : p '=' = false) : (body ++ rest).takeWhile p = body := by
  rw [List.takeWhile_append_of_pos hbody]
  -- What follows begins with a character that is not of the kind, if it begins at all.
  have hstop : rest.takeWhile p = [] := by
    cases rest with
    | nil => rfl
    | cons c others =>
      rcases hrest c rfl with rfl | rfl | rfl
      · exact List.takeWhile_cons_of_neg (by simp [hblank])
      · exact List.takeWhile_cons_of_neg (by simp [hparen])
      · exact List.takeWhile_cons_of_neg (by simp [hequal])
  rw [hstop, List.append_nil]

/-- In front of a break a name is taken whole. -/
theorem leadingName_of_isName {name rest : List Char} (hname : isName name = true)
    (hrest : IsBreak rest) : leadingName (name ++ rest) = name := by
  cases name with
  | nil => cases hname
  | cons c others =>
    rw [isName, Bool.and_eq_true] at hname
    have htake : (others ++ rest).takeWhile isNameChar = others :=
      takeWhile_of_isBreak hrest (List.all_eq_true.1 hname.2) (by decide) (by decide) (by decide)
    rw [List.cons_append, leadingName, if_pos hname.1, htake]

/-- So is a number as it was written. One below zero begins with a sign, and another one with a
    digit, which is no sign. -/
theorem leadingNumber_writeInteger (value : Int) {rest : List Char} (hrest : IsBreak rest) :
    leadingNumber (writeInteger value ++ rest) = writeInteger value := by
  have htake : ∀ n, (writeNatural n ++ rest).takeWhile isDecimal = writeNatural n := fun n =>
    takeWhile_of_isBreak hrest (fun c hc => isDecimal_of_isDigit (isDigit_of_mem_writeNatural hc))
      (by decide) (by decide) (by decide)
  cases value with
  | negSucc n =>
    rw [writeInteger, List.cons_append, leadingNumber, if_pos (by decide), htake]
    simp [writeNatural_ne_nil]
  | ofNat n =>
    rw [writeInteger]
    have hdigits := fun c => @isDigit_of_mem_writeNatural n c
    have hall := htake n
    cases hwritten : writeNatural n with
    | nil => exact absurd hwritten (writeNatural_ne_nil n)
    | cons c others =>
      rw [hwritten] at hdigits hall
      have hdigit := hdigits c List.mem_cons_self
      have hsign : ¬ ((decide (c = '+') || decide (c = '-')) = true) := by
        rw [Bool.or_eq_true, decide_eq_true_iff, decide_eq_true_iff]
        rintro (rfl | rfl) <;> exact absurd hdigit (by decide)
      rw [List.cons_append, leadingNumber, if_neg hsign]
      exact hall

/-! ## Symbols at the head of a text

  The reader of tokens looks for a mark first, then for a flag, a counter, a number and a word.  To
  show that it finds a piece of one kind is to show that the kinds before it are not there, and this
  can be told from the first character or two. -/

theorem afterPrefix?_append (mark text : List Char) :
    afterPrefix? mark (mark ++ text) = some text := by
  induction mark with
  | nil => rfl
  | cons m mark ih => rw [List.cons_append, afterPrefix?, if_pos rfl, ih]

/-- A reference is taken together with its name. -/
theorem leadingReference?_append (mark : List Char) (symbol : String → Symbol)
    {name rest : List Char} (hname : isName name = true) (hrest : IsBreak rest) :
    leadingReference? mark symbol (mark ++ name ++ rest) =
      some (symbol (String.ofList name), (mark ++ name).length) := by
  have hsome : name.isEmpty = false := by
    cases name with
    | nil => cases hname
    | cons c others => rfl
  rw [leadingReference?, List.append_assoc, afterPrefix?_append]
  dsimp only
  rw [leadingName_of_isName hname hrest, hsome, List.length_append]
  rfl

/-- A flag with its name is the first symbol of the text. -/
theorem lexeme?_flag {name rest : List Char} (hname : isName name = true) (hrest : IsBreak rest) :
    lexeme? ("flag:".toList ++ name ++ rest) =
      some ⟨some (.flag (String.ofList name)), ("flag:".toList ++ name).length⟩ := by
  have hmark : leadingMark? ("flag:".toList ++ name ++ rest) = none := rfl
  rw [lexeme?, hmark, leadingReference?_append _ _ hname hrest]
  rfl

/-- A counter with its name likewise. -/
theorem lexeme?_counter {name rest : List Char} (hname : isName name = true)
    (hrest : IsBreak rest) :
    lexeme? ("counter:".toList ++ name ++ rest) =
      some ⟨some (.counter (String.ofList name)), ("counter:".toList ++ name).length⟩ := by
  have hmark : leadingMark? ("counter:".toList ++ name ++ rest) = none := rfl
  have hflag : leadingReference? "flag:".toList .flag ("counter:".toList ++ name ++ rest) = none :=
    rfl
  rw [lexeme?, hmark, hflag, leadingReference?_append _ _ hname hrest]
  rfl

/-- The characters that a mark begins with. -/
theorem mem_of_leadingMark? {c : Char} {rest : List Char} (h : leadingMark? (c :: rest) ≠ none) :
    c ∈ ['(', ')', '<', '>', '=', '!', '&', '|'] := by
  rw [leadingMark?.eq_def] at h
  split at h
  all_goals simp_all

theorem leadingReference?_of_ne {m c : Char} (mark rest : List Char) (symbol : String → Symbol)
    (h : m ≠ c) : leadingReference? (m :: mark) symbol (c :: rest) = none := by
  rw [leadingReference?, afterPrefix?, if_neg h]

/-- A number begins with neither a mark nor a reference. -/
theorem leading_of_number {c : Char} (rest : List Char) (h : c = '-' ∨ c.isDigit = true) :
    leadingMark? (c :: rest) = none ∧ leadingReference? "flag:".toList .flag (c :: rest) = none ∧
      leadingReference? "counter:".toList .counter (c :: rest) = none := by
  have hother : ∀ m ∈ ['(', ')', '<', '>', '=', '!', '&', '|', 'f', 'c'], m ≠ c := by
    rintro m hmem rfl
    have hnone : ['(', ')', '<', '>', '=', '!', '&', '|', 'f', 'c'].all
        (fun m => !(m == '-' || m.isDigit)) = true := by decide
    have hm := List.all_eq_true.1 hnone m hmem
    rcases h with rfl | hdigit
    · exact absurd hm (by decide)
    · simp [hdigit] at hm
  refine ⟨?_, ?_, ?_⟩
  · by_contra hmark
    exact hother c (List.mem_append_left ['f', 'c'] (mem_of_leadingMark? hmark)) rfl
  · exact leadingReference?_of_ne _ _ _ (hother 'f' (by decide))
  · exact leadingReference?_of_ne _ _ _ (hother 'c' (by decide))

/-- A number is written with a minus sign or a digit in front. -/
theorem exists_head_writeInteger (value : Int) :
    ∃ c rest, writeInteger value = c :: rest ∧ (c = '-' ∨ c.isDigit = true) := by
  cases value with
  | negSucc n => exact ⟨_, _, rfl, .inl rfl⟩
  | ofNat n =>
    rw [writeInteger]
    cases hwritten : writeNatural n with
    | nil => exact absurd hwritten (writeNatural_ne_nil n)
    | cons c rest =>
      exact ⟨c, rest, rfl, .inr (isDigit_of_mem_writeNatural (hwritten ▸ List.mem_cons_self))⟩

/-- A number is the first symbol of the text, with the value that was written. -/
theorem lexeme?_integer (value : Int) {rest : List Char} (hrest : IsBreak rest) :
    lexeme? (writeInteger value ++ rest) =
      some ⟨some (.integer value), (writeInteger value).length⟩ := by
  have hinteger : leadingInteger? (writeInteger value ++ rest) =
      some (.integer value, (writeInteger value).length) := by
    rw [leadingInteger?, leadingNumber_writeInteger value hrest, readInteger?_writeInteger]
    rfl
  obtain ⟨c, others, hwritten, hc⟩ := exists_head_writeInteger value
  obtain ⟨hmark, hflag, hcounter⟩ := leading_of_number (others ++ rest) hc
  rw [← List.cons_append, ← hwritten] at hmark hflag hcounter
  rw [lexeme?, hmark, hflag, hcounter, hinteger]
  rfl

theorem leadingWord_append {c : Char} (others : List Char) {rest : List Char}
    (hstart : isWordStart c = true) (hothers : others.all isWordChar = true)
    (hrest : IsBreak rest) :
    leadingWord (c :: others ++ rest) = c :: others := by
  rw [List.cons_append, leadingWord, if_pos hstart,
    takeWhile_of_isBreak hrest (List.all_eq_true.1 hothers) (by decide) (by decide) (by decide)]

/-- Where there is nothing of the other kinds, a word that stands for a symbol is the first symbol
    of the text. -/
theorem lexeme?_of_word {text word : List Char} {symbol : Symbol} (hmark : leadingMark? text = none)
    (hflag : leadingReference? "flag:".toList .flag text = none)
    (hcounter : leadingReference? "counter:".toList .counter text = none)
    (hinteger : leadingInteger? text = none) (hword : leadingWord text = word)
    (hsymbol : wordSymbol? word = some symbol) :
    lexeme? text = some ⟨some symbol, word.length⟩ := by
  have hsome : word.isEmpty = false := by
    cases word with
    | nil => cases hsymbol
    | cons c others => rfl
  rw [lexeme?, hmark, hflag, hcounter, hinteger]
  dsimp only
  rw [hword, hsome, hsymbol]
  rfl

/-! ## Scanning

  `ScansAs` speaks of all columns and all that may be told in an error, so nothing has to be known
  of where the text stands.  It is closed under joining texts, which is what makes the rest short.
-/

/-- In front of `rest` the text is scanned as these symbols, wherever it stands. -/
def ScansAs (text rest : List Char) (symbols : List Symbol) : Prop :=
  ∀ whole column, ∃ tokens, symbolsOf tokens = symbols ∧
    Token.scanFrom whole column 0 (text ++ rest) =
      (Token.scanFrom whole (column + text.length) 0 rest).map (tokens ++ ·)

/-- Characters that are to be skipped are passed over, and only the column counts them. -/
theorem scanFrom_skip (whole : List Char) (column : Nat) (text rest : List Char) :
    Token.scanFrom whole column text.length (text ++ rest) =
      Token.scanFrom whole (column + text.length) 0 rest := by
  induction text generalizing column with
  | nil => rfl
  | cons c text ih =>
    rw [List.cons_append, List.length_cons, Token.scanFrom, ih]
    congr 1
    omega

/-- A text that is one symbol is scanned as that symbol. -/
theorem ScansAs.of_lexeme {c : Char} {text rest : List Char} {symbol : Symbol}
    (hblank : isBlank c = false)
    (h : lexeme? (c :: text ++ rest) = some ⟨some symbol, (c :: text).length⟩) :
    ScansAs (c :: text) rest [symbol] := by
  intro whole column
  refine ⟨[⟨symbol, String.ofList (c :: text), column⟩], rfl, ?_⟩
  have htaken : (c :: text ++ rest).take (c :: text).length = c :: text := List.take_left
  rw [List.cons_append] at h htaken ⊢
  rw [Token.scanFrom, if_neg (by simp [hblank]), h]
  dsimp only
  rw [htaken, List.length_cons, Nat.add_sub_cancel, scanFrom_skip, Nat.add_right_comm,
    ← Nat.add_assoc]
  rfl

/-- A blank is scanned as no symbol. -/
theorem ScansAs.blank (rest : List Char) : ScansAs [' '] rest [] := by
  intro whole column
  refine ⟨[], rfl, ?_⟩
  rw [List.singleton_append, Token.scanFrom, if_pos (by decide)]
  cases Token.scanFrom whole (column + 1) 0 rest with
  | error flaw => rfl
  | ok tokens => rfl

/-- Texts that stand next to each other are scanned one after the other. -/
theorem ScansAs.append {text next rest : List Char} {symbols others : List Symbol}
    (htext : ScansAs text (next ++ rest) symbols) (hnext : ScansAs next rest others) :
    ScansAs (text ++ next) rest (symbols ++ others) := by
  intro whole column
  obtain ⟨tokens, hsymbols, hscan⟩ := htext whole column
  obtain ⟨more, hothers, hrest⟩ := hnext whole (column + text.length)
  refine ⟨tokens ++ more, by rw [symbolsOf_append, hsymbols, hothers], ?_⟩
  rw [List.append_assoc, hscan, hrest, List.length_append, ← Nat.add_assoc]
  cases Token.scanFrom whole (column + text.length + next.length) 0 rest with
  | error flaw => rfl
  | ok last => exact congrArg Except.ok (List.append_assoc tokens more last).symm

/-! ## What `describe` writes

  A text denotes a condition if it spells a phrase for it that can stand anywhere, even behind
  `not`.  This is stronger than what is to be shown, and it has to be: a part of a condition is
  written into a larger one, between parentheses and words. -/

/-- In front of every break the text is scanned as symbols that spell the condition tightly. -/
def Denotes (text : String) (condition : Condition) : Prop :=
  ∃ symbols phrase, Spells .negation symbols phrase ∧ phrase.condition = condition ∧
    ∀ rest, IsBreak rest → ScansAs text.toList rest symbols

theorem isBreak_space (rest : List Char) : IsBreak (' ' :: rest) :=
  fun _ h => .inl (Option.some.inj h).symm

theorem isBreak_paren (rest : List Char) : IsBreak (')' :: rest) :=
  fun _ h => .inr (.inl (Option.some.inj h).symm)

theorem isBreak_equal (rest : List Char) : IsBreak ('=' :: rest) :=
  fun _ h => .inr (.inr (Option.some.inj h).symm)

theorem scansAs_flag {name rest : List Char} (hname : isName name = true) (hrest : IsBreak rest) :
    ScansAs ("flag:".toList ++ name) rest [.flag (String.ofList name)] :=
  .of_lexeme (by decide) (lexeme?_flag hname hrest)

theorem scansAs_counter {name rest : List Char} (hname : isName name = true)
    (hrest : IsBreak rest) :
    ScansAs ("counter:".toList ++ name) rest [.counter (String.ofList name)] :=
  .of_lexeme (by decide) (lexeme?_counter hname hrest)

/-- The characters of ASCII that can be seen are no blanks. -/
theorem isBlank_of_visible {c : Char} (h : 33 ≤ c.toNat ∧ c.toNat ≤ 126) : isBlank c = false := by
  rw [← Bool.not_eq_true, isBlank, inRuns_iff]
  simp only [blankRuns, List.mem_cons, List.not_mem_nil, or_false, exists_eq_or_imp,
    exists_eq_left]
  omega

/-- A number begins with no blank. -/
theorem isBlank_of_number {c : Char} (h : c = '-' ∨ c.isDigit = true) : isBlank c = false := by
  rcases h with rfl | hdigit
  · decide
  · have hrange : 48 ≤ c.toNat ∧ c.toNat ≤ 57 := Char.isDigit_iff_toNat.1 hdigit
    exact isBlank_of_visible (by omega)

/-- A number is scanned as that number. -/
theorem scansAs_integer (value : Int) {rest : List Char} (hrest : IsBreak rest) :
    ScansAs (writeInteger value) rest [.integer value] := by
  obtain ⟨c, others, hwritten, hc⟩ := exists_head_writeInteger value
  have hlexeme := lexeme?_integer value hrest
  rw [hwritten] at hlexeme ⊢
  exact .of_lexeme (isBlank_of_number hc) hlexeme

/-- The words that `describe` writes, and the symbols that they stand for. -/
def writtenWords : List (String × Symbol) :=
  [("and", .and), ("or", .or), ("not", .not), ("false", .truth false)]

/-- No mark, reference or number begins like one of these words, so in front of a break the word is
    taken for what it is. -/
theorem scansAs_word {word : String} {symbol : Symbol} (h : (word, symbol) ∈ writtenWords)
    {rest : List Char} (hrest : IsBreak rest) : ScansAs word.toList rest [symbol] := by
  simp only [writtenWords, List.mem_cons, List.not_mem_nil, or_false, Prod.mk.injEq] at h
  rcases h with ⟨rfl, rfl⟩ | ⟨rfl, rfl⟩ | ⟨rfl, rfl⟩ | ⟨rfl, rfl⟩
  all_goals
    refine .of_lexeme (by decide) (lexeme?_of_word rfl rfl rfl rfl ?_ (by decide))
    exact leadingWord_append _ (by decide) (by decide) hrest

/-- A flag that has to be set is written by itself. -/
theorem denotes_flag {name : String} (hname : isName name.toList = true) :
    Denotes ("flag:" ++ name) (.flag name true) := by
  refine ⟨[.flag name], .flag name, .primary .flag, rfl, fun rest hrest => ?_⟩
  have hflag := scansAs_flag hname hrest
  rw [String.ofList_toList] at hflag
  rwa [String.toList_append]

/-- A flag that must not be set is written with a comparison. -/
theorem denotes_flag_false {name : String} (hname : isName name.toList = true) :
    Denotes ("flag:" ++ name ++ "==false") (.flag name false) := by
  refine ⟨[.flag name, .relation .equal, .truth false], .flagIs name false, .primary .flagIs, rfl,
    fun rest hrest => ?_⟩
  have hflag := scansAs_flag hname (isBreak_equal ('=' :: "false".toList ++ rest))
  rw [String.ofList_toList] at hflag
  have hequal : ScansAs "==".toList ("false".toList ++ rest) [.relation .equal] :=
    .of_lexeme (by decide) rfl
  have hfalse : ScansAs "false".toList rest [.truth false] :=
    scansAs_word (by decide) hrest
  have hall := hflag.append (hequal.append hfalse)
  rw [String.toList_append, String.toList_append]
  exact hall

/-- The symbol of a comparison is scanned as the relation that reads as this comparison. -/
theorem scansAs_comparison {comparison : Comparison} (h : ∀ symbol, comparison ≠ .other symbol) :
    ∃ relation : Relation,
      (∀ rest, ScansAs comparison.symbol.toList (' ' :: rest) [.relation relation]) ∧
      ∀ name value, relation.condition name value = .counter name comparison value := by
  cases comparison with
  | less => exact ⟨.less, fun _ => .of_lexeme (by decide) rfl, fun _ _ => rfl⟩
  | atMost => exact ⟨.atMost, fun _ => .of_lexeme (by decide) rfl, fun _ _ => rfl⟩
  | equal => exact ⟨.equal, fun _ => .of_lexeme (by decide) rfl, fun _ _ => rfl⟩
  | atLeast => exact ⟨.atLeast, fun _ => .of_lexeme (by decide) rfl, fun _ _ => rfl⟩
  | greater => exact ⟨.greater, fun _ => .of_lexeme (by decide) rfl, fun _ _ => rfl⟩
  | other symbol => exact absurd rfl (h symbol)

/-- A comparison of a counter is written with blanks around the mark. -/
theorem denotes_counter {name : String} {comparison : Comparison} (value : Int)
    (hname : isName name.toList = true) (hcomparison : ∀ symbol, comparison ≠ .other symbol) :
    Denotes ("counter:" ++ name ++ " " ++ comparison.symbol ++ " " ++ integer value)
      (.counter name comparison value) := by
  obtain ⟨relation, hmark, hcondition⟩ := scansAs_comparison hcomparison
  refine ⟨[.counter name, .relation relation, .integer value], .counter name relation value,
    .primary .counter, hcondition name value, fun rest hrest => ?_⟩
  have hreference := scansAs_counter hname
    (isBreak_space (comparison.symbol.toList ++ ' ' :: (writeInteger value ++ rest)))
  rw [String.ofList_toList] at hreference
  have hnumber := scansAs_integer value hrest
  have hall :=
    (((hreference.append (.blank _)).append (hmark (writeInteger value ++ rest))).append
      (.blank _)).append hnumber
  simp only [String.toList_append, integer, String.toList_ofList]
  exact hall

theorem scansAs_paren (rest : List Char) :
    ScansAs ['('] rest [.openParen] ∧ ScansAs [')'] rest [.closeParen] :=
  ⟨.of_lexeme (by decide) rfl, .of_lexeme (by decide) rfl⟩

/-- A negation is written with its operand in parentheses. -/
theorem Denotes.not {text : String} {condition : Condition} (h : Denotes text condition) :
    Denotes ("not (" ++ text ++ ")") (.not condition) := by
  obtain ⟨symbols, phrase, hspells, rfl, hscan⟩ := h
  refine ⟨[.not, .openParen] ++ symbols ++ [.closeParen], .not (.group phrase), ?_, rfl,
    fun rest _ => ?_⟩
  · exact .not (.primary (.group (.conjunction (.negation hspells))))
  · have hword : ScansAs "not".toList (' ' :: '(' :: (text.toList ++ ')' :: rest)) [.not] :=
      scansAs_word (by decide) (isBreak_space _)
    have hinner := hscan (')' :: rest) (isBreak_paren rest)
    have hall := (((hword.append (.blank _)).append (scansAs_paren _).1).append hinner).append
      (scansAs_paren rest).2
    rw [String.toList_append, String.toList_append]
    exact hall

/-- Two texts in parentheses with a word between them. -/
theorem scansAs_joined {left right : String} {word rest : List Char}
    {symbols others : List Symbol} {symbol : Symbol}
    (hleft : ∀ rest, IsBreak rest → ScansAs left.toList rest symbols)
    (hword : ∀ rest, IsBreak rest → ScansAs word rest [symbol])
    (hright : ∀ rest, IsBreak rest → ScansAs right.toList rest others) :
    ScansAs ('(' :: (left.toList ++ (' ' :: (word ++ ' ' :: (right.toList ++ [')']))))) rest
      (.openParen :: (symbols ++ symbol :: others ++ [.closeParen])) := by
  have hlast := (hright _ (isBreak_paren rest)).append (scansAs_paren rest).2
  have hmiddle := (hword _ (isBreak_space _)).append ((ScansAs.blank _).append hlast)
  have hfirst := (hleft _ (isBreak_space _)).append ((ScansAs.blank _).append hmiddle)
  have hall := (scansAs_paren _).1.append hfirst
  simpa using hall

/-- A conjunction is written in parentheses, so it can be a part of any other condition. -/
theorem Denotes.and {left right : String} {first second : Condition} (hleft : Denotes left first)
    (hright : Denotes right second) :
    Denotes ("(" ++ left ++ " and " ++ right ++ ")") (.and first second) := by
  obtain ⟨symbols, phrase, hspells, rfl, hscan⟩ := hleft
  obtain ⟨others, operand, hothers, rfl, hnext⟩ := hright
  have hjoined := Spells.and (.negation hspells) hothers
  refine ⟨_, .group (.and phrase operand), .primary (.group (.conjunction hjoined)), rfl,
    fun rest _ => ?_⟩
  have hword : ∀ rest, IsBreak rest → ScansAs "and".toList rest [.and] :=
    fun _ hrest => scansAs_word (by decide) hrest
  have hall := @scansAs_joined _ _ _ rest _ _ _ hscan hword hnext
  simpa using hall

/-- So is a disjunction. -/
theorem Denotes.or {left right : String} {first second : Condition} (hleft : Denotes left first)
    (hright : Denotes right second) :
    Denotes ("(" ++ left ++ " or " ++ right ++ ")") (.or first second) := by
  obtain ⟨symbols, phrase, hspells, rfl, hscan⟩ := hleft
  obtain ⟨others, operand, hothers, rfl, hnext⟩ := hright
  have hjoined := Spells.or (.conjunction (.negation hspells)) (.negation hothers)
  refine ⟨_, .group (.or phrase operand), .primary (.group hjoined), rfl, fun rest _ => ?_⟩
  have hword : ∀ rest, IsBreak rest → ScansAs "or".toList rest [.or] :=
    fun _ hrest => scansAs_word (by decide) hrest
  have hall := @scansAs_joined _ _ _ rest _ _ _ hscan hword hnext
  simpa using hall

/-- What is written for a condition denotes it. -/
theorem exists_describe_denotes {condition : Condition} (h : condition.IsWritable) :
    ∃ text, condition.describe = .ok text ∧ Denotes text condition := by
  induction condition with
  -- What is written for a flag depends on what is expected of it.
  | flag name expected =>
    refine ⟨_, rfl, ?_⟩
    cases expected with
    | true => exact denotes_flag h
    | false => exact denotes_flag_false h
  | counter name comparison value => exact ⟨_, rfl, denotes_counter value h.1 h.2⟩
  | not operand ih =>
    obtain ⟨text, htext, hdenotes⟩ := ih h
    exact ⟨_, bind_eq_ok_iff.2 ⟨text, htext, rfl⟩, hdenotes.not⟩
  | and left right ihleft ihright =>
    obtain ⟨first, hfirst, hleft⟩ := ihleft h.1
    obtain ⟨second, hsecond, hright⟩ := ihright h.2
    exact ⟨_, bind_eq_ok_iff.2 ⟨first, hfirst, bind_eq_ok_iff.2 ⟨second, hsecond, rfl⟩⟩,
      hleft.and hright⟩
  | or left right ihleft ihright =>
    obtain ⟨first, hfirst, hleft⟩ := ihleft h.1
    obtain ⟨second, hsecond, hright⟩ := ihright h.2
    exact ⟨_, bind_eq_ok_iff.2 ⟨first, hfirst, bind_eq_ok_iff.2 ⟨second, hsecond, rfl⟩⟩,
      hleft.or hright⟩
  | unknown form => exact absurd h id

/-! ## Reading what was written

  The symbols of the text spell a phrase, and what is spelled is read (`readTokens_of_spells`).  The
  text is not blank, for a phrase has at least one symbol. -/

/-- There is no token in blanks. -/
theorem scanFrom_of_blank (whole : List Char) (column : Nat) {text : List Char}
    (h : isBlankText text = true) : Token.scanFrom whole column 0 text = .ok [] := by
  induction text generalizing column with
  | nil => rfl
  | cons c rest ih =>
    rw [isBlankText, List.all_cons, Bool.and_eq_true] at h
    rw [Token.scanFrom, if_pos h.1]
    exact ih _ h.2

/-- A text that denotes a condition is read as that condition, wherever it stands. -/
theorem readCondition_of_denotes {text : String} {condition : Condition}
    (h : Denotes text condition) (column : Nat) :
    readCondition column text.toList = .ok condition := by
  obtain ⟨symbols, phrase, hspells, rfl, hscan⟩ := h
  obtain ⟨tokens, rfl, htokens⟩ := hscan [] isBreak_nil text.toList column
  have hscanned : Token.scan column text.toList = .ok tokens := by
    rw [List.append_nil, Token.scanFrom] at htokens
    exact htokens.trans (congrArg Except.ok (List.append_nil tokens))
  have hblank : ¬ isBlankText text.toList = true := by
    intro hblank
    rw [Token.scan, scanFrom_of_blank _ _ hblank] at hscanned
    cases hscanned
    exact hspells.ne_nil rfl
  rw [readCondition, if_neg hblank, hscanned]
  exact readTokens_of_spells _ (.conjunction (.negation hspells))

/-! ## What was read can be written

  The other way round: where does a condition that was read get its names from? From the tokens, and
  these from the text, in which only names were taken for names.  Comparisons were read from marks,
  and there is no mark for an unknown one. -/

/-- A flag or a counter has a name. -/
def Symbol.IsNamed : Symbol → Prop
  | .flag name | .counter name => isName name.toList = true
  | _ => True

/-- What is taken for a name is a name, unless it is nothing. -/
theorem isName_leadingName {text : List Char} (h : (leadingName text).isEmpty = false) :
    isName (leadingName text) = true := by
  cases text with
  | nil => cases h
  | cons c rest =>
    rw [leadingName] at h ⊢
    split at h
    next hc =>
      rw [if_pos hc, isName, hc, Bool.true_and]
      exact List.all_takeWhile
    next => cases h

/-- A mark has no name that it could lack. -/
theorem isNamed_of_leadingMark? {text : List Char} {symbol : Symbol} {length : Nat}
    (h : leadingMark? text = some (symbol, length)) : symbol.IsNamed := by
  rw [leadingMark?.eq_def] at h
  split at h
  all_goals cases h
  all_goals trivial

/-- A reference has a name. -/
theorem exists_name_of_leadingReference? {mark text : List Char} {make : String → Symbol}
    {symbol : Symbol} {length : Nat}
    (h : leadingReference? mark make text = some (symbol, length)) :
    ∃ name, symbol = make name ∧ isName name.toList = true := by
  rw [leadingReference?] at h
  split at h
  next => cases h
  next rest _ =>
    cases hempty : (leadingName rest).isEmpty with
    | true => simp [hempty] at h
    | false =>
      simp only [hempty] at h
      cases h
      exact ⟨_, rfl, by rw [String.toList_ofList]; exact isName_leadingName hempty⟩

/-- Words name nothing. -/
theorem isNamed_of_wordSymbol? {word : List Char} {symbol : Symbol}
    (h : wordSymbol? word = some symbol) : symbol.IsNamed := by
  simp only [wordSymbol?] at h
  repeat' split at h
  all_goals cases h
  all_goals trivial

/-- The symbol at the head of a text is a mark, a reference, a number or a word. -/
theorem cases_of_lexeme? {text : List Char} {symbol : Symbol} {length : Nat}
    (h : lexeme? text = some ⟨some symbol, length⟩) :
    leadingMark? text = some (symbol, length) ∨
      leadingReference? "flag:".toList .flag text = some (symbol, length) ∨
      leadingReference? "counter:".toList .counter text = some (symbol, length) ∨
      leadingInteger? text = some (symbol, length) ∨
      wordSymbol? (leadingWord text) = some symbol := by
  rw [lexeme?] at h
  cases hmark : leadingMark? text with
  | some found => rw [hmark] at h; cases h; exact .inl rfl
  | none =>
    cases hflag : leadingReference? "flag:".toList .flag text with
    | some found => rw [hmark, hflag] at h; cases h; exact .inr (.inl rfl)
    | none =>
      cases hcounter : leadingReference? "counter:".toList .counter text with
      | some found => rw [hmark, hflag, hcounter] at h; cases h; exact .inr (.inr (.inl rfl))
      | none =>
        cases hinteger : leadingInteger? text with
        | some found =>
          rw [hmark, hflag, hcounter, hinteger] at h
          cases h
          exact .inr (.inr (.inr (.inl rfl)))
        | none =>
          -- The `match` on what is left is on constructors, so the goal is stated with it reduced.
          rw [hmark, hflag, hcounter, hinteger] at h
          change (if (leadingWord text).isEmpty then none
            else some (Lexeme.mk (wordSymbol? (leadingWord text))
              (leadingWord text).length)) = _ at h
          split at h
          next => cases h
          next => exact .inr (.inr (.inr (.inr (congrArg Lexeme.symbol (Option.some.inj h)))))

/-- Hence no symbol at the head of a text lacks a name. -/
theorem isNamed_of_lexeme? {text : List Char} {symbol : Symbol} {length : Nat}
    (h : lexeme? text = some ⟨some symbol, length⟩) : symbol.IsNamed := by
  rcases cases_of_lexeme? h with hmark | hflag | hcounter | hinteger | hword
  · exact isNamed_of_leadingMark? hmark
  · obtain ⟨name, rfl, hname⟩ := exists_name_of_leadingReference? hflag
    exact hname
  · obtain ⟨name, rfl, hname⟩ := exists_name_of_leadingReference? hcounter
    exact hname
  · obtain ⟨value, -, heq⟩ := Option.map_eq_some_iff.1 hinteger
    cases heq
    trivial
  · exact isNamed_of_wordSymbol? hword

/-- The flags and counters among the tokens of a text have names. -/
theorem isNamed_of_scanFrom {whole : List Char} {column skip : Nat} {text : List Char}
    {tokens : List Token} (h : Token.scanFrom whole column skip text = .ok tokens) :
    ∀ symbol ∈ symbolsOf tokens, symbol.IsNamed := by
  induction text generalizing column skip tokens with
  | nil => cases skip <;> cases h <;> exact nofun
  | cons c rest ih =>
    cases skip with
    -- A character that belongs to the token before it.
    | succ skip => exact ih h
    | zero =>
      rw [Token.scanFrom] at h
      split at h
      next => exact ih h
      next =>
        split at h
        next => cases h
        next => cases h
        next symbol length hlexeme =>
          obtain ⟨others, hothers, rfl⟩ := map_eq_ok_iff.1 h
          exact List.forall_mem_cons.2 ⟨isNamed_of_lexeme? hlexeme, ih hothers⟩

theorem isWritable_of_relation (relation : Relation) {name : String} (value : Int)
    (hname : isName name.toList = true) : (relation.condition name value).IsWritable := by
  cases relation <;> exact ⟨hname, nofun⟩

/-- A phrase whose flags and counters have names stands for a condition that can be written. -/
theorem isWritable_of_spells {level : Level} {symbols : List Symbol} {phrase : Phrase}
    (h : Spells level symbols phrase) (hnamed : ∀ symbol ∈ symbols, symbol.IsNamed) :
    phrase.condition.IsWritable := by
  induction h with
  | flag | flagIs | flagIsNot => exact hnamed _ List.mem_cons_self
  | counter => exact isWritable_of_relation _ _ (hnamed _ List.mem_cons_self)
  | group _ ih =>
    exact ih fun symbol hmem => hnamed symbol
      (List.mem_cons_of_mem _ (List.mem_append_left _ hmem))
  | primary _ ih | negation _ ih | conjunction _ ih => exact ih hnamed
  | not _ ih => exact ih fun symbol hmem => hnamed symbol (List.mem_cons_of_mem _ hmem)
  | and _ _ ihleft ihright | or _ _ ihleft ihright =>
    obtain ⟨hleft, hright⟩ := List.forall_mem_append.1 hnamed
    exact ⟨ihleft hleft, ihright fun symbol hmem => hright symbol (List.mem_cons_of_mem _ hmem)⟩

/-- **Every condition that was read can be written.** -/
theorem isWritable_of_readCondition {column : Nat} {text : List Char} {condition : Condition}
    (h : readCondition column text = .ok condition) : condition.IsWritable := by
  rw [readCondition] at h
  split at h
  next => cases h
  next =>
    obtain ⟨tokens, htokens, h⟩ := bind_eq_ok_iff.1 h
    obtain ⟨phrase, hphrase, rfl⟩ := spells_of_readTokens h
    exact isWritable_of_spells hphrase (isNamed_of_scanFrom htokens)

/-- **Writing and reading conditions are inverse.** A condition that can be written is written as a
    text that is read as the same condition, and every condition that was read can be written; so
    what was read, written down and read again has not changed. -/
theorem readCondition_describe :
    (∀ condition : Condition, condition.IsWritable →
      ∃ text, condition.describe = .ok text ∧
        ∀ column, readCondition column text.toList = .ok condition) ∧
    ∀ column text condition, readCondition column text = .ok condition →
      condition.IsWritable ∧
        ∃ written, condition.describe = .ok written ∧
          ∀ place, readCondition place written.toList = .ok condition := by
  have hwritten : ∀ condition : Condition, condition.IsWritable →
      ∃ text, condition.describe = .ok text ∧
        ∀ column, readCondition column text.toList = .ok condition := by
    intro condition h
    obtain ⟨text, htext, hdenotes⟩ := exists_describe_denotes h
    exact ⟨text, htext, readCondition_of_denotes hdenotes⟩
  refine ⟨hwritten, fun column text condition hread => ?_⟩
  have h := isWritable_of_readCondition hread
  exact ⟨h, hwritten condition h⟩

/-- A condition with names and a number that hold marks of their own. -/
def lampCondition : Condition :=
  .or (.not (.flag "lamp.lit" true))
    (.and (.flag "cave-1" false) (.counter "oil-2.5" .atLeast (-3)))

/-- The condition about the lamp is written with its parentheses, and read again in another column.
    -/
theorem readCondition_describe_lamp :
    lampCondition.IsWritable ∧
      lampCondition.describe =
        .ok "(not (flag:lamp.lit) or (flag:cave-1==false and counter:oil-2.5 >= -3))" ∧
      readCondition 7
        "(not (flag:lamp.lit) or (flag:cave-1==false and counter:oil-2.5 >= -3))".toList =
        .ok lampCondition := by
  have hwritable : lampCondition.IsWritable :=
    ⟨show isName "lamp.lit".toList = true by decide,
      show isName "cave-1".toList = true by decide,
      show isName "oil-2.5".toList = true by decide, nofun⟩
  have htext : lampCondition.describe =
      .ok "(not (flag:lamp.lit) or (flag:cave-1==false and counter:oil-2.5 >= -3))" := by
    decide +kernel
  obtain ⟨text, hdescribe, hread⟩ := readCondition_describe.1 lampCondition hwritable
  rw [htext] at hdescribe
  cases hdescribe
  exact ⟨hwritable, htext, hread 7⟩

end Markup
end Gamebook
