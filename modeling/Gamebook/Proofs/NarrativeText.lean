/-
  No narrative is lost: the text of an accepted file is its narrative lines, cleaned.

  What the reader makes of a narrative line depends on its markup: some runs are left out because
  they would be empty, others are empty and stay, and the end of the line is put on whichever run
  comes last.  What is written of them does not depend on it.  Here the text is found without a
  reader:

  * `clean`: a line without its markup, in one scan over its characters.
  * `narrativeLines`: the narrative lines inside blocks, in one scan over the lines, with neither
    conditionals nor menus.

  `Story.narrative` goes through the tree of nodes instead, both branches of every conditional one
  after the other.  That the two agree (`narrative_eq`) is shown for a line
  (`written_of_readNarrative`) from the pieces it is divided into, then for items and for whole
  files along their derivation.

  On the side of the lines nothing is known of colours, of spans or of the way in which runs are put
  together.  So the statement also says that none of this can lose a character: a span that is
  closed, a run that is left out for being empty and the line feed at the end are all accounted for.
-/
import Gamebook.Proofs.BlockReading

namespace Gamebook.Markup

open Gamebook.Text

/-! ## Lines without their markup

  A marker is a word in braces, or a word behind a slash in braces; anything else in braces is text.
  The scan looks ahead from an opening brace and goes on behind the marker if there is one.  It ends
  since something is taken away at every turn. -/

/-- What follows a word and a closing brace, in a text that begins with them. -/
def afterTag? : List Char → Option (List Char)
  | [] => none
  | c :: rest =>
    if isWordStart c then afterPrefix? ['}'] (rest.dropWhile isWordChar) else none

/-- What follows a marker whose opening brace stands directly before the text. -/
def afterMarker? : List Char → Option (List Char)
  | '/' :: text => afterTag? text
  | text => afterTag? text

/-- Less is left behind a word and its brace than there was. -/
theorem length_of_afterTag? {text after : List Char} (h : afterTag? text = some after) :
    after.length < text.length := by
  cases text with
  | nil => cases h
  | cons c rest =>
    rw [afterTag?] at h
    split at h
    next =>
      have hshorter := (List.dropWhile_sublist isWordChar (l := rest)).length_le
      cases hrest : rest.dropWhile isWordChar with
      | nil => rw [hrest] at h; cases h
      | cons brace tail =>
        rw [hrest, afterPrefix?] at h
        split at h
        next =>
          cases h
          rw [hrest, List.length_cons] at hshorter
          rw [List.length_cons]
          omega
        next => cases h
    next => cases h

/-- Less is left behind a marker than there was, which is why the scan ends. -/
theorem length_of_afterMarker? {text after : List Char} (h : afterMarker? text = some after) :
    after.length < text.length := by
  rw [afterMarker?.eq_def] at h
  split at h
  next rest => exact Nat.lt_succ_of_lt (length_of_afterTag? h)
  next => exact length_of_afterTag? h

/-- The text with one brace for two, and without its markers. Every other character stays. -/
def withoutMarkup : List Char → List Char
  | [] => []
  | c :: rest =>
    if c = '{' then
      if rest.head? = some '{' then '{' :: withoutMarkup (rest.drop 1)
      else match _h : afterMarker? rest with
        | some after => withoutMarkup after
        | none => c :: withoutMarkup rest
    else c :: withoutMarkup rest
termination_by text => text.length
decreasing_by
  · rw [List.length_drop, List.length_cons]
    omega
  · have hshorter := length_of_afterMarker? _h
    rw [List.length_cons]
    omega
  · rw [List.length_cons]
    omega
  · rw [List.length_cons]
    omega

/-- The line without the backslash that stands before its first mark, if it begins so after
    blanks. -/
def dropEscape : List Char → List Char
  | [] => []
  | c :: rest =>
    if isBlank c then c :: dropEscape rest
    else if c = escapeMark ∧ rest.head? = some directiveMark then rest
    else c :: rest

/-- The characters of a narrative line that are shown. -/
def clean (line : List Char) : List Char := withoutMarkup (dropEscape line)

theorem withoutMarkup_of_ne {c : Char} {rest : List Char} (h : c ≠ '{') :
    withoutMarkup (c :: rest) = c :: withoutMarkup rest := by
  rw [withoutMarkup, if_neg h]

theorem withoutMarkup_double {rest : List Char} (h : rest.head? = some '{') :
    withoutMarkup ('{' :: rest) = '{' :: withoutMarkup (rest.drop 1) := by
  rw [withoutMarkup, if_pos rfl, if_pos h]

/-- A marker is left out, and with it its brace. -/
theorem withoutMarkup_marker {rest after : List Char} (hsingle : rest.head? ≠ some '{')
    (h : afterMarker? rest = some after) :
    withoutMarkup ('{' :: rest) = withoutMarkup after := by
  rw [withoutMarkup, if_pos rfl, if_neg hsingle]
  split
  next other hother => rw [Option.some.inj (hother.symm.trans h)]
  next hnone => rw [hnone] at h; cases h

/-- A brace that begins no marker stays. -/
theorem withoutMarkup_brace {rest : List Char} (hsingle : rest.head? ≠ some '{')
    (h : afterMarker? rest = none) :
    withoutMarkup ('{' :: rest) = '{' :: withoutMarkup rest := by
  rw [withoutMarkup, if_pos rfl, if_neg hsingle]
  split
  next other hother => rw [h] at hother; cases hother
  next => rfl

/-! ## The pieces of a line

  The reader divides a line into pieces first: characters and markers, each marker with its column.
  It counts the characters that still belong to the marker it has just found, where the scan drops
  them. -/

/-- The reader drops the same backslash. -/
theorem unescape_eq (line : List Char) : unescape line = dropEscape line := by
  induction line with
  | nil => rfl
  | cons c rest ih =>
    rw [dropEscape]
    by_cases hblank : isBlank c = true
    -- A blank in front makes no difference to whether there is an escape.
    · have hescaped : isEscaped (c :: rest) = isEscaped rest := by
        rw [isEscaped, isEscaped, trimLeft, List.dropWhile_cons_of_pos hblank, trimLeft]
      rw [if_pos hblank, ← ih, unescape, unescape, hescaped]
      split
      · rw [List.takeWhile_cons_of_pos hblank, trimLeft, List.dropWhile_cons_of_pos hblank,
          trimLeft, List.cons_append]
      · rfl
    -- Anything else in front is the escape itself, or there is none.
    · have htrim : trimLeft (c :: rest) = c :: rest := List.dropWhile_cons_of_neg hblank
      have hescaped : isEscaped (c :: rest) = true ↔
          c = escapeMark ∧ rest.head? = some directiveMark := by
        rw [isEscaped, htrim, List.isPrefixOf_iff_prefix, List.cons_prefix_cons, eq_comm]
        cases rest <;> simp [eq_comm]
      rw [if_neg hblank, unescape, htrim, List.takeWhile_cons_of_neg hblank]
      by_cases hmark : c = escapeMark ∧ rest.head? = some directiveMark
      · rw [if_pos hmark, if_pos (hescaped.2 hmark)]
        rfl
      · rw [if_neg hmark, if_neg (fun h => hmark (hescaped.1 h))]

/-- The characters among the pieces. -/
def keptChars : List Piece → List Char
  | [] => []
  | .char c :: rest => c :: keptChars rest
  | .marker _ :: rest => keptChars rest

/-- A marker ends where its word and one closing brace do. -/
theorem afterTag?_eq (text : List Char) :
    afterTag? text = (tagBeforeBrace? text).map fun tag => text.drop (tag.length + 1) := by
  cases text with
  | nil => rfl
  | cons c rest =>
    by_cases hstart : isWordStart c = true
    -- Behind the word is what is left when as many characters are dropped as the word has.
    · have hdrop : rest.drop (rest.takeWhile isWordChar).length = rest.dropWhile isWordChar := by
        have h : (rest.takeWhile isWordChar ++ rest.dropWhile isWordChar).drop
            (rest.takeWhile isWordChar).length = rest.dropWhile isWordChar := List.drop_left
        rwa [List.takeWhile_append_dropWhile] at h
      have hword : leadingWord (c :: rest) = c :: rest.takeWhile isWordChar := by
        rw [leadingWord, if_pos hstart]
      rw [afterTag?, if_pos hstart, tagBeforeBrace?, hword]
      simp only [List.isEmpty_cons, Bool.false_eq_true, if_false, List.length_cons,
        List.drop_succ_cons, hdrop]
      cases hafter : rest.dropWhile isWordChar with
      | nil => rfl
      | cons brace tail =>
        by_cases hbrace : brace = '}'
        · subst hbrace
          have htail : rest.drop ((rest.takeWhile isWordChar).length + 1) = tail := by
            rw [← List.drop_drop, hdrop, hafter, List.drop_one, List.tail_cons]
          rw [afterPrefix?, if_pos rfl, afterPrefix?]
          show some tail = some (rest.drop ((rest.takeWhile isWordChar).length + 1))
          rw [htail]
        · rw [afterPrefix?, if_neg (Ne.symm hbrace)]
          split
          next h => cases h; exact absurd rfl hbrace
          next => rfl
    · rw [afterTag?, if_neg hstart, tagBeforeBrace?, leadingWord, if_neg hstart]
      rfl

/-- The marker that the reader finds is the one that the scan passes over; its text has one
    character more than is passed over, which is the brace in front. -/
theorem afterMarker?_eq (column : Nat) (text : List Char) :
    afterMarker? text =
      (markerAfterBrace? column text).map fun marker => text.drop (marker.text.length - 1) := by
  rw [afterMarker?.eq_def]
  split
  next rest =>
    rw [afterTag?_eq, markerAfterBrace?, Option.map_map]
    cases tagBeforeBrace? rest with
    | none => rfl
    | some tag => simp [Marker.text]
  next hopening =>
    rw [afterTag?_eq, markerAfterBrace?.eq_2 column text hopening, Option.map_map]
    cases tagBeforeBrace? text with
    | none => rfl
    | some tag => simp [Marker.text]

/-- The pieces of a line keep what is to be shown of it. -/
theorem keptChars_piecesFrom (column skip : Nat) (text : List Char) :
    keptChars (piecesFrom column skip text) = withoutMarkup (text.drop skip) := by
  -- The reader skips what a piece has taken one character at a time, where the scan drops it at
  -- once; so the induction is on the text, for every number of characters to be skipped.
  induction text generalizing column skip with
  | nil => rw [piecesFrom, List.drop_nil, withoutMarkup, keptChars]
  | cons c rest ih =>
    cases skip with
    | succ skip => rw [piecesFrom, ih, List.drop_succ_cons]
    | zero =>
      rw [piecesFrom, List.drop_zero]
      by_cases hopen : c = '{'
      · subst hopen
        rw [if_pos rfl]
        by_cases hdouble : rest.head? = some '{'
        · rw [if_pos hdouble, keptChars, ih, withoutMarkup_double hdouble]
        · have hafter := afterMarker?_eq column rest
          rw [if_neg hdouble]
          cases hmarker : markerAfterBrace? column rest with
          | some marker =>
            rw [hmarker] at hafter
            simp only [keptChars]
            rw [ih, withoutMarkup_marker hdouble hafter]
          | none =>
            rw [hmarker] at hafter
            simp only [keptChars]
            rw [ih, List.drop_zero, withoutMarkup_brace hdouble hafter]
      · rw [if_neg hopen, keptChars, ih, List.drop_zero, withoutMarkup_of_ne hopen]

/-- The texts in front of the markers and the text behind the last one are all the characters there
    are. -/
theorem segments_flatMap (pieces : List Piece) :
    (segments pieces).1.flatMap Prod.fst ++ (segments pieces).2 = keptChars pieces := by
  induction pieces with
  | nil => rfl
  | cons piece rest ih =>
    cases piece with
    | marker marker => rw [segments, keptChars, ← ih, List.flatMap_cons, List.nil_append]
    | char c =>
      rw [segments, keptChars, ← ih]
      split
      next tail h => rw [h]; rfl
      next text marker more tail h => rw [h]; rfl

/-! ## The runs of a line

  Each text is shown by one run, in the colour of the span that is open there or in none.  Only a
  text without a colour makes no run when it is empty, and then nothing is lost. -/

/-- What some runs are written as. -/
def written (runs : List TextRun) : List Char := runs.flatMap (·.written.toList)

theorem written_cons (run : TextRun) (runs : List TextRun) :
    written (run :: runs) = run.written.toList ++ written runs := List.flatMap_cons

theorem written_append (runs others : List TextRun) :
    written (runs ++ others) = written runs ++ written others := List.flatMap_append

theorem written_innerRun (text : List Char) (color : Option (List Char)) :
    (innerRun text color).written.toList = text := by
  show (String.ofList text).toList = text
  exact String.toList_ofList

/-- Whichever runs are left out for being empty, the spans of a line lose no character, and none of
    them ends the line. -/
theorem written_of_spanRuns {grammar : Grammar} {opened : Option Marker}
    {texts : List (List Char × Marker)} {tail : List Char} {runs : List TextRun}
    (h : spanRuns grammar opened texts tail = .ok runs) :
    written runs = texts.flatMap Prod.fst ++ tail ∧ ∀ run ∈ runs, run.endsLine = false := by
  induction texts generalizing opened runs with
  | nil =>
    -- A line must not end inside a span.
    cases opened with
    | some opener => cases h
    | none =>
      cases h
      cases tail with
      | nil => exact ⟨rfl, nofun⟩
      | cons c rest =>
        constructor
        · show written [innerRun (c :: rest) none] = c :: rest
          rw [written_cons, written_innerRun, written, List.flatMap_nil, List.append_nil]
        · intro run hrun
          rw [List.mem_singleton.1 hrun]
          rfl
  | cons segment rest ih =>
    obtain ⟨text, marker⟩ := segment
    -- A span, or a text before one, is put in front of the runs of the rest. Only an empty text
    -- before a span makes no run.
    have hcons : ∀ {color next others}, spanRuns grammar next rest tail = .ok others →
        written (innerRun text color :: others) =
            ((text, marker) :: rest).flatMap Prod.fst ++ tail ∧
          ∀ run ∈ innerRun text color :: others, run.endsLine = false := by
      intro color next others hothers
      obtain ⟨hwritten, hends⟩ := ih hothers
      constructor
      · rw [written_cons, written_innerRun, List.flatMap_cons, List.append_assoc, ← hwritten]
      · intro run hrun
        rcases List.mem_cons.1 hrun with rfl | hrun
        · rfl
        · exact hends run hrun
    cases opened with
    -- Outside of a span a marker that closes one is a flaw, and one that opens one ends the text.
    | none =>
      cases hclosing : marker.closing with
      | true =>
        rw [spanRuns.eq_3 _ _ _ _ _ hclosing] at h
        split at h <;> cases h
      | false =>
        rw [spanRuns.eq_6 _ _ _ _ _ hclosing] at h
        split at h
        next => cases h
        next =>
          obtain ⟨others, hothers, rfl⟩ := map_eq_ok_iff.1 h
          by_cases hempty : text.isEmpty = true
          · rw [if_pos hempty, List.flatMap_cons, List.isEmpty_iff.1 hempty, List.nil_append]
            exact ih hothers
          · rw [if_neg hempty]
            exact hcons hothers
    -- Inside of a span it is the other way round.
    | some opener =>
      cases hclosing : marker.closing with
      | true =>
        rw [spanRuns.eq_4 _ _ _ _ _ _ hclosing] at h
        split at h
        next => cases h
        next =>
          split at h
          next =>
            obtain ⟨others, hothers, rfl⟩ := map_eq_ok_iff.1 h
            exact hcons hothers
          next => cases h
      | false =>
        rw [spanRuns.eq_5 _ _ _ _ _ _ hclosing] at h
        split at h <;> cases h

/-- One run gets the end of the line, wherever it comes from. -/
theorem written_endLine {runs : List TextRun} (h : ∀ run ∈ runs, run.endsLine = false) :
    written (endLine runs) = written runs ++ ['\n'] := by
  induction runs with
  | nil => rfl
  | cons run rest ih =>
    -- Before the end of the line is put on it, a run is written as its content.
    have hinner : run.written = run.content := by
      rw [TextRun.written, h run List.mem_cons_self, if_neg Bool.false_ne_true]
    cases rest with
    | nil =>
      rw [endLine, written_cons, written_cons, hinner, TextRun.written, if_pos rfl,
        String.toList_append, written, List.flatMap_nil, List.append_nil, List.append_nil]
      rfl
    | cons next rest =>
      have htail := ih fun other hother => h other (List.mem_cons_of_mem _ hother)
      rw [endLine, written_cons, htail, written_cons run, List.append_assoc]

/-- **A narrative line is written as it is, cleaned**, whatever runs it was divided into. -/
theorem written_of_readNarrative {grammar : Grammar} {line : List Char} {runs : List TextRun}
    (h : readNarrative grammar line = .ok runs) : written runs = clean line ++ ['\n'] := by
  rw [readNarrative] at h
  obtain ⟨inner, hinner, rfl⟩ := map_eq_ok_iff.1 h
  obtain ⟨hwritten, hends⟩ := written_of_spanRuns hinner
  rw [written_endLine hends, hwritten, segments_flatMap, keptChars_piecesFrom, List.drop_zero,
    unescape_eq, clean]

/-! ## The lines of a file

  A directive inside a block leaves no text, whatever it does, so of the directives the scan over a
  file has to know only the two that open and close a block.  It looks for the keyword of the first
  one outside of blocks and for that of the second one inside of them. -/

/-- The line is a directive with this keyword. -/
def hasKeyword (keyword : Keyword) (line : List Char) : Bool :=
  (Directive.ofLine? line).any (·.keyword = keyword.text.toList)

/-- The line is no directive. -/
def isNarrative (line : List Char) : Bool := (Directive.ofLine? line).isNone

/-- The narrative lines inside blocks, in their order. -/
def narrativeLines (grammar : Grammar) : (inside : Bool) → List (List Char) → List (List Char)
  | _, [] => []
  | false, line :: rest =>
    narrativeLines grammar (!isIdle grammar line && hasKeyword .block line) rest
  | true, line :: rest =>
    if isNarrative line then line :: narrativeLines grammar true rest
    else narrativeLines grammar (!hasKeyword .endBlock line) rest

/-- What narrative lines are written as: each of them cleaned, and a line feed after it. -/
def cleaned (lines : List (List Char)) : List Char := lines.flatMap fun line => clean line ++ ['\n']

theorem cleaned_append (lines others : List (List Char)) :
    cleaned (lines ++ others) = cleaned lines ++ cleaned others := List.flatMap_append

/-- A line that says narrative is no directive, and its runs are what it is read as. -/
theorem isNarrative_of_narrative {grammar : Grammar} {line : List Char} {runs : List TextRun}
    (h : Says grammar line (.narrative runs)) :
    isNarrative line = true ∧ readNarrative grammar line = .ok runs := by
  cases h with
  | narrative hline hread =>
    refine ⟨?_, hread⟩
    rw [isNarrative, hline]
    rfl

/-- A line inside a block that is no narrative is a directive, of which no text is left. -/
theorem isNarrative_of_other {grammar : Grammar} {line : List Char} {statement : Statement}
    (h : Says grammar line statement) (hother : ∀ runs, statement ≠ .narrative runs) :
    isNarrative line = false := by
  rcases h.cases_directive with ⟨runs, -, -, rfl⟩ | ⟨keyword, directive, hline, -⟩
  · exact absurd rfl (hother runs)
  · rw [isNarrative, hline.divides]
    rfl

/-- A directive has one keyword only. -/
theorem hasKeyword_iff {grammar : Grammar} {line : List Char} {keyword other : Keyword}
    {directive : Directive} (hline : IsDirective grammar line keyword directive) :
    hasKeyword other line = true ↔ keyword = other := by
  rw [hasKeyword, hline.divides, Option.any_some, hline.keyword_eq, decide_eq_true_iff,
    String.toList_inj]
  constructor
  · intro h
    have hword := Keyword.ofText?_eq_some_iff.2 h
    rw [Keyword.ofText?_eq_some_iff.2 rfl] at hword
    exact (Option.some.inj hword).symm
  · rintro rfl
    rfl

/-- The end of a block is the only line inside it that has the keyword for it. -/
theorem hasKeyword_endBlock_iff {grammar : Grammar} {line : List Char} {statement : Statement}
    (h : Says grammar line statement) :
    hasKeyword .endBlock line = true ↔ statement = .endBlock := by
  cases h with
  | narrative hline _ => simp [hasKeyword, hline]
  | option hline _ => simp [hasKeyword_iff hline]
  | change hline _ => simp [hasKeyword_iff hline]
  | jump hline _ => simp [hasKeyword_iff hline]
  | openIf hline _ => simp [hasKeyword_iff hline]
  | elseBranch hline _ => simp [hasKeyword_iff hline]
  | closeIf hline _ => simp [hasKeyword_iff hline]
  | endBlock hline _ => simp [hasKeyword_iff hline]
  | block hline => simp [hasKeyword_iff hline]
  | entry hline => simp [hasKeyword_iff hline]

/-! ## Items

  The items of a block are followed along their derivation, one case for each rule.  Options,
  changes and jumps leave nothing on either side; a conditional is written as what is between its
  lines. -/

/-- No line of items ends the block. -/
theorem Items.hasKeyword_endBlock {grammar : Grammar} {lines : List (List Char)}
    {nodes : List Node} (h : Items grammar lines nodes) :
    ∀ line ∈ lines, hasKeyword .endBlock line = false := by
  intro line hmem
  obtain ⟨statement, hline, hstays⟩ := h.says_of_mem line hmem
  refine Bool.eq_false_iff.2 fun hend => ?_
  rw [(hasKeyword_endBlock_iff hline).1 hend] at hstays
  cases hstays

/-- Where no line ends the block, its narrative lines are all that are no directives. -/
theorem narrativeLines_append {grammar : Grammar} {lines : List (List Char)}
    (h : ∀ line ∈ lines, hasKeyword .endBlock line = false) (rest : List (List Char)) :
    narrativeLines grammar true (lines ++ rest) =
      lines.filter isNarrative ++ narrativeLines grammar true rest := by
  induction lines with
  | nil => rfl
  | cons line lines ih =>
    have htail := ih fun other hother => h other (List.mem_cons_of_mem _ hother)
    have hstays := h line List.mem_cons_self
    rw [List.cons_append, narrativeLines]
    by_cases hline : isNarrative line = true
    · rw [if_pos hline, htail, List.filter_cons_of_pos hline, List.cons_append]
    · rw [if_neg hline, hstays, Bool.not_false, htail, List.filter_cons_of_neg hline]

theorem allTextRuns_append (nodes others : List Node) :
    Node.allTextRuns (nodes ++ others) = Node.allTextRuns nodes ++ Node.allTextRuns others := by
  induction nodes with
  | nil => rfl
  | cons node rest ih =>
    rw [List.cons_append, Node.allTextRuns, Node.allTextRuns, ih, List.append_assoc]

theorem allTextRuns_text (runs : List TextRun) : Node.allTextRuns (runs.map .text) = runs := by
  induction runs with
  | nil => rfl
  | cons run rest ih => rw [List.map_cons, Node.allTextRuns, ih, Node.textRuns]; rfl

/-- **The nodes of items are written as the narrative among their lines**, in the order of the
    lines, with the branches of every conditional in it. -/
theorem Items.written_eq {grammar : Grammar} {lines : List (List Char)} {nodes : List Node}
    (h : Items grammar lines nodes) :
    written (Node.allTextRuns nodes) = cleaned (lines.filter isNarrative) := by
  -- Of a line that is no narrative nothing is left, on either side.
  have hskip : ∀ {line statement} (rest : List (List Char)), Says grammar line statement →
      (∀ runs, statement ≠ .narrative runs) →
      (line :: rest).filter isNarrative = rest.filter isNarrative := fun _ hline hother =>
    List.filter_cons_of_neg (Bool.eq_false_iff.1 (isNarrative_of_other hline hother))
  induction h with
  | nil => rfl
  | narrative hline _ ih =>
    obtain ⟨hnarrative, hread⟩ := isNarrative_of_narrative hline
    rw [allTextRuns_append, allTextRuns_text, written_append, ih, written_of_readNarrative hread,
      List.filter_cons_of_pos hnarrative, cleaned, cleaned, List.flatMap_cons]
  | change hline _ ih =>
    rw [hskip _ hline (by simp), ← ih]
    rfl
  | jump hline _ ih =>
    rw [hskip _ hline (by simp), ← ih]
    rfl
  | menu hlines _ _ _ ih =>
    -- Every line of the row is an option, so none of them is narrative.
    have hnone : List.filter isNarrative _ = [] := List.filter_eq_nil_iff.2 fun line hmem => by
      obtain ⟨choice, hline⟩ := exists_option_of_mem hlines line hmem
      exact Bool.eq_false_iff.1 (isNarrative_of_other hline (by simp))
    rw [List.filter_append, hnone, List.nil_append, ← ih]
    rfl
  | conditional hopener _ hcloser _ ihbody ihrest =>
    rw [List.filter_append, hskip _ hopener (by simp), hskip _ hcloser (by simp), cleaned_append,
      ← ihbody, ← ihrest, Node.allTextRuns, Node.textRuns, Node.allTextRuns, List.append_nil,
      written_append]
  | conditionalElse hopener _ hdivider _ hcloser _ ihbody ihothers ihrest =>
    rw [List.filter_append, List.filter_append, hskip _ hopener (by simp),
      hskip _ hdivider (by simp), hskip _ hcloser (by simp), cleaned_append, cleaned_append,
      ← ihbody, ← ihothers, ← ihrest, Node.allTextRuns, Node.textRuns, written_append,
      written_append]

/-! ## Whole files

  Outside of blocks nothing is written: a line there is idle, names the entry or opens a block, and
  a block takes its items and the line that ends it with it. -/

/-- The blocks of a file are written as the narrative lines that the scan over its lines finds. -/
theorem Parts.written_eq {grammar : Grammar} {number : Nat} {lines : List (List Char)}
    {blocks : List Block} {entries : List String} (h : Parts grammar number lines blocks entries) :
    blocks.flatMap (fun block => written (Node.allTextRuns block.nodes)) =
      cleaned (narrativeLines grammar false lines) := by
  induction h with
  | nil => rfl
  | idle hline _ ih =>
    -- Idle lines are passed over even if their first word is that of a block.
    rw [narrativeLines, isIdle_iff.2 hline, Bool.not_true, Bool.false_and, ih]
  | entry hline _ ih =>
    cases hline with
    | entry hbusy hdirective _ =>
      have hblock : hasKeyword .block _ = false :=
        Bool.eq_false_iff.2 fun h => by cases (hasKeyword_iff hdirective).1 h
      rw [narrativeLines, hblock, Bool.and_false, ih]
  | block hopener hbody hcloser _ ih =>
    cases hopener with
    | block hbusy hdirective _ =>
      have hidle : isIdle grammar _ = false :=
        Bool.eq_false_iff.2 fun h => hbusy (isIdle_iff.1 h)
      -- The scan leaves the block at the first line with the keyword of its end, and the items have
      -- none.
      have hcloses := (hasKeyword_endBlock_iff hcloser).2 rfl
      have hclosing := isNarrative_of_other hcloser (by simp)
      rw [List.cons_append, narrativeLines, hidle, (hasKeyword_iff hdirective).2 rfl,
        Bool.not_false, Bool.true_and, narrativeLines_append hbody.hasKeyword_endBlock,
        narrativeLines, hclosing, if_neg Bool.false_ne_true, hcloses, Bool.not_true,
        cleaned_append, ← ih, ← hbody.written_eq, List.flatMap_cons]

/-- The narrative of a story is what the runs of its blocks are written as. -/
theorem narrative_toList (story : Story) :
    story.narrative.toList =
      story.blocks.flatMap fun block => written (Node.allTextRuns block.nodes) := by
  rw [Story.narrative, String.toList_join, List.flatMap_assoc]
  congr 1
  funext block
  rw [List.flatMap_map, written]

/-- **The text of an accepted file is its narrative lines**, each of them cleaned and ended by one
    line feed, in the order in which they stand inside its blocks. -/
theorem narrative_eq {grammar : Grammar} {fileId text : String} {story : Story}
    (h : readStory grammar fileId text = .ok story) :
    story.narrative.toList =
      (narrativeLines grammar false (linesOf text.toList)).flatMap
        fun line => clean line ++ ['\n'] := by
  obtain ⟨blocks, entries, hparts, -, -, -, rfl⟩ := isStory_of_readStory h
  rw [narrative_toList]
  exact hparts.written_eq

/-- A file with an escaped line, doubled braces, a span, and a line in either branch, one of them
    empty. -/
def lampText : String :=
  "@block hall\n  \\@home \x7b\x7bx\x7d\n@if flag:lit\nA \x7bred\x7dhot\x7b/red\x7d lamp\n" ++
  "@else\n\n@endif\n@end\n"

theorem narrative_eq_lampText :
    ∃ story, readStory {} "tale" lampText = .ok story ∧
      story.narrative = "  @home \x7bx\x7d\nA hot lamp\n\n" ∧
      story.narrative.toList = (narrativeLines {} false (linesOf lampText.toList)).flatMap
        fun line => clean line ++ ['\n'] := by
  have hread : (readStory {} "tale" lampText).toOption.map Story.narrative =
      some "  @home \x7bx\x7d\nA hot lamp\n\n" := by decide +kernel
  cases hstory : readStory {} "tale" lampText with
  | error flaw => rw [hstory] at hread; cases hread
  | ok story =>
    rw [hstory] at hread
    exact ⟨story, rfl, Option.some.inj hread, narrative_eq hstory⟩

end Gamebook.Markup
