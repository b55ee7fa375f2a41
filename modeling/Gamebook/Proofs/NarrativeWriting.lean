/-
  Writing a narrative line and reading it gives the same runs.

  A line is written run by run (`writeRuns`): every opening brace is doubled, a run in a colour is
  put between the tags of the colour, and in the end a mark that the line would begin with is
  escaped (`putEscape`).

  1. **Pieces.**  A doubled text is divided into its characters and a tag into a marker, whatever
     follows them (`piecesFrom_doubled`, `piecesFrom_opener`, `piecesFrom_closer`): after either the
     reader stands where the next one begins, so braces next to a tag are never taken together.

  2. **Runs.**  The reader makes one run of each run that was written (`ReadsAs`, by induction on
     the runs).  A text without a colour is only closed by the tag behind it, so the induction
     carries along what a text in front of the runs does; that is one run more, unless they begin
     with one that has no colour either.

  3. **Escapes.**  The backslash that was put is the one that is dropped, as what is written never
     begins like an escape by itself (`not_isPrefix_writeRuns`).
-/
import Gamebook.Proofs.LineEnds
import Gamebook.Proofs.TextPieces
import Mathlib.Data.List.Chain

namespace Gamebook.Markup

open Gamebook.Text

/-! ## Runs that can be written

  Not every list of runs comes from a line.  Two runs without a colour, one after the other, would
  be read as one; an empty one would not be read at all; and a first run that begins like an escape
  would lose its backslash.  `IsWritableLine` rules these out, along with line breaks and with
  colours that the grammar does not have. -/

/-- The text is a word: letters, digits and underscores, and no digit in front. -/
def isWord : List Char → Bool
  | [] => false
  | c :: rest => isWordStart c && rest.all isWordChar

/-- The runs of a line, as the grammar lets it be written. The last run ends the line, colours are
    tags of the grammar, and runs without a colour are apart. Such a run is empty only if it is the
    whole line, and the first run does not begin like an escape. -/
structure IsWritableLine (grammar : Grammar) (runs : List TextRun) : Prop where
  line : IsLine runs
  tags : ∀ run ∈ runs, ∀ color, run.color = some color →
    color ∈ grammar.colors ∧ isWord color.toList = true
  apart : runs.IsChain fun run next => ¬ (run.color = none ∧ next.color = none)
  full : ∀ run ∈ runs, run.color = none → run.content = "" → runs = [run]
  unbroken : ∀ run ∈ runs, '\n' ∉ run.content.toList ∧ '\r' ∉ run.content.toList
  plain : ∀ run, runs.head? = some run → run.color = none →
    ¬ [escapeMark, directiveMark] <+: trimLeft run.content.toList

/-! ## Writing

  A closing brace is written as it is: it means something only behind an opening one. -/

/-- The text with two opening braces for one. -/
def doubled (text : List Char) : List Char :=
  text.flatMap fun c => if c = '{' then ['{', '{'] else [c]

/-- The tag that opens a span. -/
def openTag (tag : List Char) : List Char := '{' :: tag ++ ['}']

/-- The tag that closes a span. -/
def closeTag (tag : List Char) : List Char := '{' :: '/' :: tag ++ ['}']

/-- The run as it is written. -/
def writeRun (run : TextRun) : List Char :=
  match run.color with
  | none => doubled run.content.toList
  | some color =>
    openTag color.toList ++ doubled run.content.toList ++ closeTag color.toList

/-- The line with a backslash before its first character other than a blank, if that is the mark of
    a directive. -/
def putEscape (line : List Char) : List Char :=
  if (trimLeft line).head? = some directiveMark then
    line.takeWhile isBlank ++ escapeMark :: trimLeft line
  else line

/-- The runs one after the other. -/
def writeRuns (runs : List TextRun) : List Char := runs.flatMap writeRun

/-- The narrative line that has these runs. -/
def writeLine (runs : List TextRun) : List Char := putEscape (writeRuns runs)

/-! ## Dividing what was written

  All of these are stated with an arbitrary text behind what was written, so that they can be put
  one after the other.  The column at which the rest begins is left open, as only flaws report it.
-/

theorem doubled_cons (c : Char) (text : List Char) :
    doubled (c :: text) = (if c = '{' then ['{', '{'] else [c]) ++ doubled text :=
  List.flatMap_cons

/-- What belongs to a piece is passed over. -/
theorem piecesFrom_skip (column : Nat) (text rest : List Char) :
    piecesFrom column text.length (text ++ rest) = piecesFrom (column + text.length) 0 rest := by
  induction text generalizing column with
  | nil => rfl
  | cons c text ih =>
    rw [List.cons_append, List.length_cons, piecesFrom, ih]
    congr 1
    omega

/-- A doubled text is divided into its characters, whatever follows it. -/
theorem piecesFrom_doubled (column : Nat) (text rest : List Char) :
    ∃ next, piecesFrom column 0 (doubled text ++ rest) =
      text.map .char ++ piecesFrom next 0 rest := by
  induction text generalizing column with
  | nil => exact ⟨column, rfl⟩
  | cons c text ih =>
    rw [doubled_cons]
    by_cases hbrace : c = '{'
    · subst hbrace
      -- Two braces are one piece, and the reader passes over the second one.
      obtain ⟨next, hnext⟩ := ih (column + 1 + 1)
      refine ⟨next, ?_⟩
      show piecesFrom column 0 ('{' :: '{' :: (doubled text ++ rest)) = _
      rw [piecesFrom, if_pos rfl, List.head?_cons, if_pos rfl, piecesFrom, hnext]
      rfl
    · obtain ⟨next, hnext⟩ := ih (column + 1)
      refine ⟨next, ?_⟩
      rw [if_neg hbrace]
      show piecesFrom column 0 (c :: (doubled text ++ rest)) = _
      rw [piecesFrom, if_neg hbrace, hnext]
      rfl

/-- A word has a first character. -/
theorem exists_of_isWord {tag : List Char} (h : isWord tag = true) :
    ∃ c rest, tag = c :: rest ∧ isWordStart c = true ∧ rest.all isWordChar = true := by
  cases tag with
  | nil => cases h
  | cons c rest =>
    obtain ⟨hstart, hrest⟩ := (Bool.and_eq_true _ _).mp h
    exact ⟨c, rest, rfl, hstart, hrest⟩

/-- A word and a closing brace are the word of a tag. -/
theorem tagBeforeBrace?_append {tag : List Char} (h : isWord tag = true) (rest : List Char) :
    tagBeforeBrace? (tag ++ '}' :: rest) = some tag := by
  obtain ⟨c, others, rfl, hstart, hothers⟩ := exists_of_isWord h
  have hword : leadingWord (c :: others ++ '}' :: rest) = c :: others := by
    rw [List.cons_append, leadingWord, if_pos hstart,
      List.takeWhile_append_of_pos (List.all_eq_true.1 hothers),
      List.takeWhile_cons_of_neg (by decide), List.append_nil]
  rw [tagBeforeBrace?, hword, List.drop_left]
  rfl

/-- A brace that begins a marker is divided off together with it. -/
theorem piecesFrom_marker {column : Nat} {body rest : List Char} {marker : Marker}
    (hsingle : (body ++ rest).head? ≠ some '{')
    (hmarker : markerAfterBrace? column (body ++ rest) = some marker)
    (htext : marker.text = '{' :: body) :
    piecesFrom column 0 ('{' :: body ++ rest) =
      .marker marker :: piecesFrom (column + 1 + body.length) 0 rest := by
  have hlength : marker.text.length - 1 = body.length := by
    rw [htext, List.length_cons, Nat.add_sub_cancel]
  rw [List.cons_append, piecesFrom, if_pos rfl, if_neg hsingle, hmarker]
  dsimp only
  rw [hlength, piecesFrom_skip]

/-- The tag that opens a span is divided off as a marker. -/
theorem piecesFrom_opener {tag : List Char} (h : isWord tag = true) (column : Nat)
    (rest : List Char) :
    ∃ next, piecesFrom column 0 (openTag tag ++ rest) =
      .marker ⟨false, tag, column⟩ :: piecesFrom next 0 rest := by
  have hbody : tag ++ ['}'] ++ rest = tag ++ '}' :: rest := List.append_assoc tag ['}'] rest
  obtain ⟨c, others, htag, hstart, -⟩ := exists_of_isWord h
  -- Behind the brace there is a letter, so neither a second brace nor the slash of a closing tag.
  have hhead : ∀ mark text, isWordStart mark = false → tag ++ '}' :: rest ≠ mark :: text := by
    rw [htag]
    intro mark text hmark heq
    cases heq
    rw [hmark] at hstart
    cases hstart
  refine ⟨column + 1 + (tag ++ ['}']).length,
    @piecesFrom_marker column (tag ++ ['}']) rest ⟨false, tag, column⟩ ?_ ?_ rfl⟩
  · rw [hbody]
    intro hbrace
    obtain ⟨text, htext⟩ := List.head?_eq_some_iff.1 hbrace
    exact hhead '{' text (by decide) htext
  · rw [hbody, markerAfterBrace?.eq_2 column _ fun text => hhead '/' text (by decide),
      tagBeforeBrace?_append h]
    rfl

/-- The tag that closes a span is divided off as a marker. -/
theorem piecesFrom_closer {tag : List Char} (h : isWord tag = true) (column : Nat)
    (rest : List Char) :
    ∃ next, piecesFrom column 0 (closeTag tag ++ rest) =
      .marker ⟨true, tag, column⟩ :: piecesFrom next 0 rest := by
  have hbody : '/' :: tag ++ ['}'] ++ rest = '/' :: (tag ++ '}' :: rest) :=
    congrArg ('/' :: ·) (List.append_assoc tag ['}'] rest)
  refine ⟨column + 1 + ('/' :: tag ++ ['}']).length,
    @piecesFrom_marker column ('/' :: tag ++ ['}']) rest ⟨true, tag, column⟩ ?_ ?_ rfl⟩
  · rw [hbody]
    exact fun hbrace => absurd hbrace (by simp)
  · rw [hbody, markerAfterBrace?, tagBeforeBrace?_append h]
    rfl

/-! ## Texts and markers

  Characters belong to the next marker, or to the end of the line. -/

/-- A text in front of what the pieces of a line are gathered into. -/
def prependText (text : List Char) :
    List (List Char × Marker) × List Char → List (List Char × Marker) × List Char
  | ([], tail) => ([], text ++ tail)
  | ((first, marker) :: more, tail) => ((text ++ first, marker) :: more, tail)

/-- Characters in front of some pieces are put in front of the first text. -/
theorem segments_chars (text : List Char) (pieces : List Piece) :
    segments (text.map .char ++ pieces) = prependText text (segments pieces) := by
  induction text with
  | nil =>
    show segments pieces = prependText [] (segments pieces)
    generalize segments pieces = gathered
    obtain ⟨_ | ⟨⟨first, marker⟩, more⟩, tail⟩ := gathered <;> rfl
  | cons c text ih =>
    show segments (.char c :: (text.map .char ++ pieces)) = _
    rw [segments, ih]
    generalize segments pieces = gathered
    obtain ⟨_ | ⟨⟨first, marker⟩, more⟩, tail⟩ := gathered <;> rfl

/-! ## Reading what was written

  A text without a colour is a run only once something ends it, which is a marker or the end of the
  line.  `ReadsAs` says both what becomes of the pieces by themselves and what becomes of them
  behind such a text; the second part is needed only where the next run has a colour. -/

/-- A tag that opens a span ends the text before it, which makes a run unless it is empty. -/
theorem spanRuns_opener {grammar : Grammar} {marker : Marker}
    (hknown : String.ofList marker.tag ∈ grammar.colors) (hopening : marker.closing = false)
    {text tail : List Char} {rest : List (List Char × Marker)} :
    spanRuns grammar none ((text, marker) :: rest) tail =
      (spanRuns grammar (some marker) rest tail).map fun runs =>
        if text.isEmpty then runs else innerRun text none :: runs := by
  rw [spanRuns.eq_6 _ _ _ _ _ hopening, List.contains_iff_mem.2 hknown]
  rfl

/-- A tag that closes the span ends its text. -/
theorem spanRuns_closer {grammar : Grammar} {opener marker : Marker}
    (hknown : String.ofList marker.tag ∈ grammar.colors) (hclosing : marker.closing = true)
    (hsame : marker.tag = opener.tag) {text tail : List Char} {rest : List (List Char × Marker)} :
    spanRuns grammar (some opener) ((text, marker) :: rest) tail =
      (spanRuns grammar none rest tail).map (innerRun text (some opener.tag) :: ·) := by
  rw [spanRuns.eq_4 _ _ _ _ _ _ hclosing, List.contains_iff_mem.2 hknown, if_pos hsame]
  rfl

/-- The run within its line. -/
def innerOf (run : TextRun) : TextRun := { run with endsLine := false }

/-- A run of the text and the colour of another is that run, but for the end of the line. -/
theorem innerRun_eq_innerOf (run : TextRun) {color : Option (List Char)}
    (h : color.map String.ofList = run.color) :
    innerRun run.content.toList color = innerOf run := by
  rw [innerRun, String.ofList_toList, h]
  rfl

/-- The reader makes these runs of what the pieces are gathered into; and where the runs do not
    begin with one without a colour, a text in front of them is a run by itself. -/
structure ReadsAs (grammar : Grammar) (gathered : List (List Char × Marker) × List Char)
    (runs : List TextRun) : Prop where
  alone : spanRuns grammar none gathered.1 gathered.2 = .ok (runs.map innerOf)
  front : (∀ run, runs.head? = some run → run.color ≠ none) → ∀ text : List Char, text ≠ [] →
    spanRuns grammar none (prependText text gathered).1 (prependText text gathered).2 =
      .ok (innerRun text none :: runs.map innerOf)

theorem readsAs_nil (grammar : Grammar) : ReadsAs grammar ([], []) [] where
  alone := rfl
  front := by
    intro _ text hsome
    rw [prependText, List.append_nil, spanRuns, if_neg (by simpa using hsome)]
    rfl

/-- A run without a colour that has a text, in front of runs that begin with none of the kind. -/
theorem ReadsAs.consPlain {grammar : Grammar} {gathered : List (List Char × Marker) × List Char}
    {run : TextRun} {runs : List TextRun} (h : ReadsAs grammar gathered runs)
    (hcolor : run.color = none) (hsome : run.content.toList ≠ [])
    (hnext : ∀ next, runs.head? = some next → next.color ≠ none) :
    ReadsAs grammar (prependText run.content.toList gathered) (run :: runs) where
  alone := by
    have hinner : innerRun run.content.toList none = innerOf run :=
      innerRun_eq_innerOf run hcolor.symm
    rw [h.front hnext _ hsome, hinner, List.map_cons]
  front hhead := absurd hcolor (hhead run rfl)

/-- A run in a colour, between its markers. -/
theorem ReadsAs.consSpan {grammar : Grammar} {gathered : List (List Char × Marker) × List Char}
    {run : TextRun} {runs : List TextRun} (h : ReadsAs grammar gathered runs) {color : String}
    (hcolor : run.color = some color) (hmem : color ∈ grammar.colors) (opens closes : Nat) :
    ReadsAs grammar
      (([], ⟨false, color.toList, opens⟩) ::
        (run.content.toList, ⟨true, color.toList, closes⟩) :: gathered.1, gathered.2)
      (run :: runs) := by
  have hknown : String.ofList color.toList ∈ grammar.colors := by rwa [String.ofList_toList]
  have hspan : spanRuns grammar (some ⟨false, color.toList, opens⟩)
      ((run.content.toList, ⟨true, color.toList, closes⟩) :: gathered.1) gathered.2 =
        .ok ((run :: runs).map innerOf) := by
    have hinner : innerRun run.content.toList (some color.toList) = innerOf run :=
      innerRun_eq_innerOf run (by rw [hcolor, Option.map_some, String.ofList_toList])
    rw [@spanRuns_closer grammar ⟨false, color.toList, opens⟩ ⟨true, color.toList, closes⟩ hknown
      rfl rfl, h.alone, hinner]
    rfl
  constructor
  -- Alone: in front of the opening tag there is no text, and no run of it.
  · dsimp only
    rw [spanRuns_opener hknown rfl, hspan]
    rfl
  -- Behind a text: the opening tag ends it.
  · intro _ text hsome
    have hempty : text.isEmpty = false := by
      rw [← Bool.not_eq_true, List.isEmpty_iff]
      exact hsome
    rw [prependText, List.append_nil, spanRuns_opener hknown rfl, hspan, hempty]
    rfl

/-- **The reader makes one run of each run that was written.** -/
theorem readsAs_writeRuns {grammar : Grammar} {runs : List TextRun}
    (htags : ∀ run ∈ runs, ∀ color, run.color = some color →
      color ∈ grammar.colors ∧ isWord color.toList = true)
    (hapart : runs.IsChain fun run next => ¬ (run.color = none ∧ next.color = none))
    (hfull : ∀ run ∈ runs, run.color = none → run.content.toList ≠ []) (column : Nat) :
    ReadsAs grammar (segments (piecesFrom column 0 (writeRuns runs))) runs := by
  induction runs generalizing column with
  | nil => exact readsAs_nil grammar
  | cons run runs ih =>
    obtain ⟨hnext, hapart⟩ := List.isChain_cons.1 hapart
    obtain ⟨htag, htags⟩ := List.forall_mem_cons.1 htags
    obtain ⟨hsome, hfull⟩ := List.forall_mem_cons.1 hfull
    have hrest := ih htags hapart hfull
    rw [show writeRuns (run :: runs) = writeRun run ++ writeRuns runs from List.flatMap_cons,
      writeRun]
    cases hcolor : run.color with
    -- Without a colour: the characters join the text in front of whatever comes next.
    | none =>
      obtain ⟨next, hpieces⟩ := piecesFrom_doubled column run.content.toList (writeRuns runs)
      show ReadsAs grammar
        (segments (piecesFrom column 0 (doubled run.content.toList ++ writeRuns runs))) _
      rw [hpieces, segments_chars]
      refine (hrest next).consPlain hcolor (hsome hcolor) fun other hother hplain => ?_
      exact hnext other hother ⟨hcolor, hplain⟩
    -- With one: opening tag, text and closing tag are divided off one after the other.
    | some color =>
      obtain ⟨hmem, hword⟩ := htag color hcolor
      obtain ⟨inside, hopener⟩ := piecesFrom_opener hword column
        (doubled run.content.toList ++ (closeTag color.toList ++ writeRuns runs))
      obtain ⟨closes, htext⟩ := piecesFrom_doubled inside run.content.toList
        (closeTag color.toList ++ writeRuns runs)
      obtain ⟨next, hcloser⟩ := piecesFrom_closer hword closes (writeRuns runs)
      show ReadsAs grammar (segments (piecesFrom column 0
        (openTag color.toList ++ doubled run.content.toList ++ closeTag color.toList ++
          writeRuns runs))) _
      rw [List.append_assoc, List.append_assoc, hopener, htext, hcloser, segments,
        segments_chars, segments]
      have hspan := (hrest next).consSpan hcolor hmem column closes
      simpa only [prependText, List.append_nil] using hspan

/-! ## Escapes

  A line that begins with the mark of a directive gets a backslash, behind the blanks.  The reader
  drops a backslash that stands so, whether it was put or not; so it has to be shown that the line
  has none by itself.  A first run without a colour begins with none by assumption (`plain`), and
  that its braces are doubled makes no difference; any other first run begins with a brace. -/

theorem putEscape_cons (c : Char) (rest : List Char) :
    putEscape (c :: rest) =
      if isBlank c then c :: putEscape rest
      else if c = directiveMark then escapeMark :: c :: rest else c :: rest := by
  by_cases hblank : isBlank c = true
  · rw [if_pos hblank, putEscape, putEscape, trimLeft_cons_of_blank hblank,
      List.takeWhile_cons_of_pos hblank]
    split <;> rfl
  · rw [if_neg hblank, putEscape, trimLeft_cons_of_not_blank hblank,
      List.takeWhile_cons_of_neg hblank, List.head?_cons]
    simp only [Option.some.injEq, List.nil_append]

/-- The backslash that was put is dropped, and no other is, unless the line begins like an
    escape. -/
theorem dropEscape_putEscape {line : List Char}
    (h : ¬ [escapeMark, directiveMark] <+: trimLeft line) : dropEscape (putEscape line) = line := by
  induction line with
  | nil => rfl
  | cons c rest ih =>
    rw [putEscape_cons]
    by_cases hblank : isBlank c = true
    · rw [trimLeft_cons_of_blank hblank] at h
      rw [if_pos hblank, dropEscape, if_pos hblank, ih h]
    · rw [trimLeft_cons_of_not_blank hblank] at h
      rw [if_neg hblank]
      -- Either the backslash was put here, or the line has none here by assumption.
      by_cases hmark : c = directiveMark
      · rw [if_pos hmark, hmark]
        rfl
      · rw [if_neg hmark, dropEscape, if_neg hblank, if_neg]
        rintro ⟨rfl, hnext⟩
        obtain ⟨others, rfl⟩ := List.head?_eq_some_iff.1 hnext
        exact h (List.prefix_append [escapeMark, directiveMark] others)

/-- The line does not begin with the mark of a directive any more. -/
theorem head?_trimLeft_putEscape (line : List Char) :
    (trimLeft (putEscape line)).head? ≠ some directiveMark := by
  induction line with
  | nil => exact nofun
  | cons c rest ih =>
    rw [putEscape_cons]
    by_cases hblank : isBlank c = true
    · rw [if_pos hblank, trimLeft_cons_of_blank hblank]
      exact ih
    · rw [if_neg hblank]
      split
      next => exact fun h => absurd (Option.some.inj h) (by decide)
      next hother =>
        rw [trimLeft_cons_of_not_blank hblank]
        exact fun h => hother (Option.some.inj h)

/-- A line that does not begin with the mark of a directive is narrative. -/
theorem ofLine?_eq_none {line : List Char} (h : (trimLeft line).head? ≠ some directiveMark) :
    Directive.ofLine? line = none := by
  rw [← Option.not_isSome_iff_eq_none, ofLine?_isSome_iff]
  intro htrim
  exact h (head?_of_isPrefix (trimRight_isPrefix (trimLeft line)) htrim)

theorem head?_doubled_append (c : Char) (text rest : List Char) :
    (doubled (c :: text) ++ rest).head? = some c := by
  rw [doubled_cons]
  split
  next hbrace =>
    rw [hbrace]
    rfl
  next => rfl

/-- A text that does not begin like an escape does not do so when it is doubled, and goes on with a
    brace, if at all. -/
theorem not_isPrefix_doubled {text rest : List Char}
    (h : ¬ [escapeMark, directiveMark] <+: trimLeft text)
    (hrest : ∀ c, rest.head? = some c → c = '{') :
    ¬ [escapeMark, directiveMark] <+: trimLeft (doubled text ++ rest) := by
  have hbrace : ∀ c, c = '{' → isBlank c = false := by rintro _ rfl; decide
  induction text with
  -- Nothing is left of the text, so the rest would have to begin with the backslash.
  | nil =>
    intro hpre
    have hself : trimLeft rest = rest :=
      trimLeft_eq_self fun c hc => hbrace c (hrest c hc)
    rw [show doubled [] ++ rest = rest from rfl, hself] at hpre
    exact absurd (hrest escapeMark (head?_of_isPrefix hpre rfl)) (by decide)
  | cons c text ih =>
    by_cases hblank : isBlank c = true
    · have hsingle : c ≠ '{' := fun heq => Bool.false_ne_true ((hbrace c heq).symm.trans hblank)
      rw [trimLeft_cons_of_blank hblank] at h
      rw [doubled_cons, if_neg hsingle, List.singleton_append, List.cons_append,
        trimLeft_cons_of_blank hblank]
      exact ih h
    · intro hpre
      rw [trimLeft_cons_of_not_blank hblank] at h
      have hself : trimLeft (doubled (c :: text) ++ rest) = doubled (c :: text) ++ rest := by
        refine trimLeft_eq_self fun d hd => ?_
        rw [head?_doubled_append] at hd
        rw [← Option.some.inj hd, ← Bool.not_eq_true]
        exact hblank
      rw [hself] at hpre
      -- The text would have to begin with the backslash, and the mark stand behind it.
      have hfirst : c = escapeMark :=
        Option.some.inj ((head?_doubled_append c text rest).symm.trans
          (head?_of_isPrefix hpre rfl))
      subst hfirst
      rw [doubled_cons, if_neg (by decide), List.singleton_append, List.cons_append,
        List.cons_prefix_cons] at hpre
      have hsecond : (doubled text ++ rest).head? = some directiveMark :=
        head?_of_isPrefix hpre.2 rfl
      cases text with
      | nil => exact absurd (hrest directiveMark hsecond) (by decide)
      | cons d text =>
        rw [head?_doubled_append] at hsecond
        rw [Option.some.inj hsecond] at h
        exact h (List.prefix_append [escapeMark, directiveMark] text)

/-- What runs in a colour are written as begins with a brace. -/
theorem head?_writeRuns {runs : List TextRun}
    (h : ∀ run, runs.head? = some run → run.color ≠ none) :
    ∀ c, (writeRuns runs).head? = some c → c = '{' := by
  intro c hc
  cases runs with
  | nil => cases hc
  | cons run runs =>
    rw [show writeRuns (run :: runs) = writeRun run ++ writeRuns runs from List.flatMap_cons,
      writeRun] at hc
    cases hcolor : run.color with
    | none => exact absurd hcolor (h run rfl)
    | some color =>
      rw [hcolor] at hc
      exact (Option.some.inj hc).symm

/-- What is written for a line does not begin like an escape, so the backslash that is put is the
    only one. -/
theorem not_isPrefix_writeRuns {grammar : Grammar} {runs : List TextRun}
    (h : IsWritableLine grammar runs) :
    ¬ [escapeMark, directiveMark] <+: trimLeft (writeRuns runs) := by
  cases runs with
  | nil => exact nofun
  | cons run runs =>
    cases hcolor : run.color with
    | none =>
      obtain ⟨hnext, -⟩ := List.isChain_cons.1 h.apart
      rw [show writeRuns (run :: runs) = writeRun run ++ writeRuns runs from List.flatMap_cons,
        writeRun, hcolor]
      refine not_isPrefix_doubled (h.plain run rfl hcolor) (head?_writeRuns fun next hnone => ?_)
      exact fun hplain => hnext next hnone ⟨hcolor, hplain⟩
    | some color =>
      intro hpre
      have hcolored : ∀ first, (run :: runs).head? = some first → first.color ≠ none := by
        intro first hfirst
        cases hfirst
        rw [hcolor]
        exact Option.some_ne_none color
      have hbrace := head?_writeRuns hcolored
      have hself : trimLeft (writeRuns (run :: runs)) = writeRuns (run :: runs) := by
        refine trimLeft_eq_self fun c hc => ?_
        rw [hbrace c hc]
        decide
      rw [hself] at hpre
      exact absurd (hbrace escapeMark (head?_of_isPrefix hpre rfl)) (by decide)

/-! ## Writing, then reading

  It is left to put the end of the line back where it was.  The line that has one empty run is by
  itself, as it is the only one with a run that the reader would leave out. -/

/-- What is put at the end of the last run was there before. -/
theorem endLine_innerOf {runs : List TextRun} (h : IsLine runs) :
    endLine (runs.map innerOf) = runs := by
  induction h with
  | @last run hends =>
    show [{ innerOf run with endsLine := true }] = [run]
    rw [← hends]
    rfl
  | @cons run rest hinner hrest ih =>
    have hsame : innerOf run = run := by
      rw [innerOf, ← hinner]
    rw [List.map_cons, hsame]
    cases rest with
    | nil => cases hrest
    | cons next rest => exact congrArg (run :: ·) ih

/-- **A line that was written is read as the runs it was written from.** -/
theorem readNarrative_writeLine {grammar : Grammar} {runs : List TextRun}
    (h : IsWritableLine grammar runs) : readNarrative grammar (writeLine runs) = .ok runs := by
  rw [readNarrative, unescape_eq, writeLine, dropEscape_putEscape (not_isPrefix_writeRuns h)]
  dsimp only
  generalize (if isEscaped (putEscape (writeRuns runs)) then 2 else 1) = column
  by_cases hempty : ∃ run ∈ runs, run.color = none ∧ run.content = ""
  -- The empty line: its one run is the one that the end of a line makes by itself.
  · obtain ⟨⟨content, color, ends⟩, hmem, hcolor, hcontent⟩ := hempty
    have hruns := h.full _ hmem hcolor hcontent
    have hline := h.line
    rw [hruns] at hline ⊢
    cases hcolor
    cases hcontent
    cases hline with
    | last hends =>
      cases hends
      rfl
    | cons _ hrest => cases hrest
  · have hfull : ∀ run ∈ runs, run.color = none → run.content.toList ≠ [] := by
      intro run hmem hcolor hcontent
      exact hempty ⟨run, hmem, hcolor, String.toList_inj.1 hcontent⟩
    rw [(readsAs_writeRuns h.tags h.apart hfull column).alone]
    exact congrArg Except.ok (endLine_innerOf h.line)

/-- A line that was written is narrative for the reader of lines, too, as it does not begin with the
    mark of a directive. -/
theorem read_writeLine {grammar : Grammar} {runs : List TextRun}
    (h : IsWritableLine grammar runs) :
    Statement.read grammar (writeLine runs) = .ok (.narrative runs) :=
  read_eq_ok_iff.2 (.narrative (ofLine?_eq_none (head?_trimLeft_putEscape _))
    (readNarrative_writeLine h))

end Gamebook.Markup
