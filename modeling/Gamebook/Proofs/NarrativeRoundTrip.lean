/-
  What narrative lines are read as, exactly.

  Every run list that can be written is what its own line is read as (`readNarrative_writeLine`).
  Here is the converse: what a line of a file is read as can be written.

  1. **The form of the runs** follows the recursion of `spanRuns` (`InnerForm`): a text before a
     span is a run without a colour, and is left out if it is empty; and while a span is open, the
     next run is the span, so runs without a colour are apart.

  2. **The first text** of a line, up to its first brace, stands in the line as it is
     (`isPrefix_of_firstText`).  A line without its escape does not begin like an escape, so neither
     does a first run without a colour.

  3. **Characters.**  Runs show characters of the line, which holds no line breaks.

  Both directions together say what the grammar of a line is: `IsWritableLine` is neither too wide,
  as each such list of runs is written and read again, nor too narrow, as no line gives any other.
-/
import Gamebook.Proofs.NarrativeWriting

namespace Gamebook.Markup

open Gamebook.Text

/-! ## What the markers of a line hold

  The word of a marker is a word wherever it is found, and no later step changes it. -/

theorem isWordChar_of_isWordStart {c : Char} (h : isWordStart c = true) : isWordChar c = true := by
  rw [isWordStart, Bool.or_eq_true] at h
  rw [isWordChar, Char.isAlphanum, Bool.or_eq_true, Bool.or_eq_true]
  exact h.imp_left Or.inl

/-- All characters of a word may stand in words. -/
theorem isWordChar_of_mem {tag : List Char} (h : isWord tag = true) {c : Char} (hc : c ∈ tag) :
    isWordChar c = true := by
  obtain ⟨first, rest, rfl, hstart, hrest⟩ := exists_of_isWord h
  rcases List.mem_cons.1 hc with rfl | hc
  · exact isWordChar_of_isWordStart hstart
  · exact List.all_eq_true.1 hrest c hc

/-- What stands before a brace is a word. -/
theorem isWord_of_tagBeforeBrace? {text tag : List Char} (h : tagBeforeBrace? text = some tag) :
    isWord tag = true := by
  simp only [tagBeforeBrace?] at h
  split at h
  next => cases h
  next hsome =>
    split at h
    next =>
      cases h
      cases text with
      | nil => exact absurd rfl hsome
      | cons c rest =>
        rw [leadingWord] at hsome ⊢
        split at hsome
        next hstart =>
          rw [if_pos hstart, isWord, hstart, Bool.true_and]
          exact List.all_takeWhile
        next => exact absurd rfl hsome
    next => cases h

/-- The tag of a marker is a word, be it opening or closing. -/
theorem isWord_of_markerAfterBrace? {column : Nat} {text : List Char} {marker : Marker}
    (h : markerAfterBrace? column text = some marker) : isWord marker.tag = true := by
  rw [markerAfterBrace?.eq_def] at h
  split at h <;>
  · obtain ⟨tag, htag, rfl⟩ := Option.map_eq_some_iff.1 h
    exact isWord_of_tagBeforeBrace? htag

/-- The tags of the markers in a line are words. -/
theorem isWord_of_mem_piecesFrom {column skip : Nat} {text : List Char} {marker : Marker}
    (h : .marker marker ∈ piecesFrom column skip text) : isWord marker.tag = true := by
  induction text generalizing column skip with
  | nil => cases skip <;> cases h
  | cons c rest ih =>
    cases skip with
    | succ skip => exact ih h
    | zero =>
      rw [piecesFrom] at h
      split at h
      next =>
        split at h
        next =>
          rcases List.mem_cons.1 h with heq | hrest
          · cases heq
          · exact ih hrest
        next =>
          split at h
          next found hmarker =>
            rcases List.mem_cons.1 h with heq | hrest
            · cases heq
              exact isWord_of_markerAfterBrace? hmarker
            · exact ih hrest
          next =>
            rcases List.mem_cons.1 h with heq | hrest
            · cases heq
            · exact ih hrest
      next =>
        rcases List.mem_cons.1 h with heq | hrest
        · cases heq
        · exact ih hrest

/-- The markers that texts end in are among the pieces. -/
theorem mem_of_mem_segments {pieces : List Piece} {text : List Char} {marker : Marker}
    (h : (text, marker) ∈ (segments pieces).1) : .marker marker ∈ pieces := by
  induction pieces generalizing text with
  | nil => cases h
  | cons piece rest ih =>
    cases piece with
    | marker first =>
      rcases List.mem_cons.1 h with heq | hrest
      · cases heq
        exact List.mem_cons_self
      · exact List.mem_cons_of_mem _ (ih hrest)
    | char c =>
      rw [segments] at h
      refine List.mem_cons_of_mem _ ?_
      split at h
      next => cases h
      next first other more tail hgathered =>
        rw [hgathered] at ih
        rcases List.mem_cons.1 h with heq | hrest
        · cases heq
          exact ih List.mem_cons_self
        · exact ih (List.mem_cons_of_mem _ hrest)

/-! ## The runs that are read

  Each marker is known to the grammar, and it opens a span where none is open and closes the one
  that is; everything else is a flaw.  So the runs come in two kinds, and what holds of them is
  carried from the rest of the line to its beginning. -/

/-- What is made of a text and the marker behind it: the text before a span, if there is any, or the
    text of the span that is open. -/
theorem spanRuns_cons_cases {grammar : Grammar} {opened : Option Marker} {text tail : List Char}
    {marker : Marker} {rest : List (List Char × Marker)} {runs : List TextRun}
    (h : spanRuns grammar opened ((text, marker) :: rest) tail = .ok runs) :
    String.ofList marker.tag ∈ grammar.colors ∧
      ((opened = none ∧ ∃ others, spanRuns grammar (some marker) rest tail = .ok others ∧
        runs = if text.isEmpty then others else innerRun text none :: others) ∨
      (opened.isSome = true ∧ ∃ others, spanRuns grammar none rest tail = .ok others ∧
        runs = innerRun text (some marker.tag) :: others)) := by
  -- A tag that the grammar does not have is refused before anything else is looked at.
  have hknown : String.ofList marker.tag ∈ grammar.colors := by
    rw [← List.contains_iff_mem]
    by_contra hunknown
    rw [spanRuns.eq_def] at h
    simp only [hunknown, Bool.not_false, if_true] at h
    cases h
  refine ⟨hknown, ?_⟩
  cases opened with
  | none =>
    cases hclosing : marker.closing with
    | true =>
      rw [spanRuns.eq_3 _ _ _ _ _ hclosing] at h
      split at h <;> cases h
    | false =>
      rw [spanRuns_opener hknown hclosing] at h
      obtain ⟨others, hothers, rfl⟩ := map_eq_ok_iff.1 h
      exact .inl ⟨rfl, others, hothers, rfl⟩
  | some opener =>
    cases hclosing : marker.closing with
    | true =>
      by_cases hsame : marker.tag = opener.tag
      · rw [spanRuns_closer hknown hclosing hsame] at h
        obtain ⟨others, hothers, rfl⟩ := map_eq_ok_iff.1 h
        exact .inr ⟨rfl, others, hothers, by rw [hsame]⟩
      · rw [spanRuns.eq_4 _ _ _ _ _ _ hclosing, if_neg hsame] at h
        split at h <;> cases h
    | false =>
      rw [spanRuns.eq_5 _ _ _ _ _ _ hclosing] at h
      split at h <;> cases h

/-- The runs within a line: colours are tags of the grammar, runs without one are apart and not
    empty, and while a span is open the first run has a colour. -/
structure InnerForm (grammar : Grammar) (opened : Option Marker) (runs : List TextRun) : Prop where
  tags : ∀ run ∈ runs, ∀ color, run.color = some color →
    color ∈ grammar.colors ∧ isWord color.toList = true
  apart : runs.IsChain fun run next => ¬ (run.color = none ∧ next.color = none)
  full : ∀ run ∈ runs, run.color = none → run.content ≠ ""
  first : opened.isSome = true → ∀ run, runs.head? = some run → run.color ≠ none

/-- A text that is not empty, before a span. -/
theorem InnerForm.consPlain {grammar : Grammar} {marker : Marker} {runs : List TextRun}
    (h : InnerForm grammar (some marker) runs) {text : List Char} (hsome : ¬ text.isEmpty = true) :
    InnerForm grammar none (innerRun text none :: runs) where
  tags := List.forall_mem_cons.2 ⟨nofun, h.tags⟩
  apart := List.isChain_cons.2 ⟨fun next hnext hboth => h.first rfl next hnext hboth.2, h.apart⟩
  full := by
    refine List.forall_mem_cons.2 ⟨fun _ hempty => hsome (List.isEmpty_iff.2 ?_), h.full⟩
    have hchars := congrArg String.toList hempty
    rwa [show (innerRun text none).content.toList = text from String.toList_ofList] at hchars
  first := nofun

/-- A span, whatever its text. -/
theorem InnerForm.consSpan {grammar : Grammar} {opened : Option Marker} {runs : List TextRun}
    (h : InnerForm grammar none runs) {text tag : List Char}
    (hknown : String.ofList tag ∈ grammar.colors) (hword : isWord tag = true) :
    InnerForm grammar opened (innerRun text (some tag) :: runs) where
  tags := by
    refine List.forall_mem_cons.2 ⟨fun color hcolor => ?_, h.tags⟩
    cases hcolor
    rw [String.toList_ofList]
    exact ⟨hknown, hword⟩
  apart := List.isChain_cons.2 ⟨fun _ _ hboth => Option.some_ne_none _ hboth.1, h.apart⟩
  full := List.forall_mem_cons.2 ⟨nofun, h.full⟩
  first := by
    intro _ run hrun
    cases hrun
    exact nofun

/-- The runs that are made of texts and markers have this form. -/
theorem innerForm_of_spanRuns {grammar : Grammar} {opened : Option Marker}
    {texts : List (List Char × Marker)} {tail : List Char} {runs : List TextRun}
    (hwords : ∀ segment ∈ texts, isWord segment.2.tag = true)
    (h : spanRuns grammar opened texts tail = .ok runs) : InnerForm grammar opened runs := by
  induction texts generalizing opened runs with
  | nil =>
    cases opened with
    | some opener => cases h
    | none =>
      cases h
      split
      next => exact ⟨nofun, .nil, nofun, nofun⟩
      next hsome =>
        exact @InnerForm.consPlain grammar ⟨false, [], 0⟩ [] ⟨nofun, .nil, nofun, nofun⟩ tail hsome
  | cons segment rest ih =>
    obtain ⟨text, marker⟩ := segment
    obtain ⟨hword, hwords⟩ := List.forall_mem_cons.1 hwords
    obtain ⟨hknown, ⟨rfl, others, hothers, rfl⟩ | ⟨-, others, hothers, rfl⟩⟩ :=
      spanRuns_cons_cases h
    · have hform := ih hwords hothers
      split
      -- An empty text makes no run, and the span that follows comes first.
      next => exact ⟨hform.tags, hform.apart, hform.full, nofun⟩
      next hsome => exact hform.consPlain hsome
    · exact (ih hwords hothers).consSpan hknown hword

/-! ## The first text of a line

  That a line does not begin like an escape is known of its characters.  To have it for the first
  run as well, the characters in question are looked for in the line: blanks, a backslash and a
  mark.  There is no brace among them, so the reader has not touched them. -/

/-- The text in front of the first marker. -/
def firstText : List (List Char × Marker) × List Char → List Char
  | ([], tail) => tail
  | ((text, _) :: _, _) => text

/-- A character in front of the pieces is the first one of the first text. -/
theorem firstText_char (c : Char) (pieces : List Piece) :
    firstText (segments (.char c :: pieces)) = c :: firstText (segments pieces) := by
  rw [segments]
  generalize segments pieces = gathered
  obtain ⟨_ | ⟨⟨first, marker⟩, more⟩, tail⟩ := gathered <;> rfl

/-- Up to its first brace the first text stands in the line as it is. -/
theorem isPrefix_of_firstText {column : Nat} {text front : List Char} (hfront : '{' ∉ front)
    (h : front <+: firstText (segments (piecesFrom column 0 text))) : front <+: text := by
  induction front generalizing column text with
  | nil => exact List.nil_prefix
  | cons c front ih =>
    rw [List.mem_cons, not_or] at hfront
    cases text with
    | nil => exact h
    | cons first rest =>
      rw [piecesFrom] at h
      split at h
      next =>
        -- With a brace the line begins either a marker, and there is no text, or a text that begins
        -- with a brace.
        split at h
        next =>
          rw [firstText_char, List.cons_prefix_cons] at h
          exact absurd h.1.symm hfront.1
        next =>
          split at h
          next => exact absurd (List.prefix_nil.1 h) (List.cons_ne_nil c front)
          next =>
            rw [firstText_char, List.cons_prefix_cons] at h
            exact absurd (‹first = '{'› ▸ h.1).symm hfront.1
      next =>
        rw [firstText_char, List.cons_prefix_cons] at h
        exact List.cons_prefix_cons.2 ⟨h.1, ih hfront.2 h.2⟩

/-- A first run without a colour is the first text. -/
theorem content_of_first {grammar : Grammar} {gathered : List (List Char × Marker) × List Char}
    (hwords : ∀ segment ∈ gathered.1, isWord segment.2.tag = true) {runs : List TextRun}
    (h : spanRuns grammar none gathered.1 gathered.2 = .ok runs) {run : TextRun}
    (hfirst : runs.head? = some run) (hplain : run.color = none) :
    run.content.toList = firstText gathered := by
  obtain ⟨_ | ⟨⟨text, marker⟩, rest⟩, tail⟩ := gathered
  · cases h
    split at hfirst
    next => cases hfirst
    next =>
      cases hfirst
      exact String.toList_ofList
  · obtain ⟨-, hwords⟩ := List.forall_mem_cons.1 hwords
    obtain ⟨-, ⟨-, others, hothers, rfl⟩ | ⟨hnone, -⟩⟩ := spanRuns_cons_cases h
    · split at hfirst
      next =>
        have hcolor := (innerForm_of_spanRuns hwords hothers).first rfl run hfirst
        exact absurd hplain hcolor
      next =>
        cases hfirst
        exact String.toList_ofList
    · cases hnone

/-- Without its escape a line does not begin like an escape. -/
theorem not_isPrefix_dropEscape (line : List Char) :
    ¬ [escapeMark, directiveMark] <+: trimLeft (dropEscape line) := by
  induction line with
  | nil => exact nofun
  | cons c rest ih =>
    rw [dropEscape]
    by_cases hblank : isBlank c = true
    · rw [if_pos hblank, trimLeft_cons_of_blank hblank]
      exact ih
    · rw [if_neg hblank]
      intro hpre
      split at hpre
      next hescape =>
        obtain ⟨others, rfl⟩ := List.head?_eq_some_iff.1 hescape.2
        rw [trimLeft_cons_of_not_blank (by decide), List.cons_prefix_cons] at hpre
        exact absurd hpre.1 (by decide)
      next hescape =>
        rw [trimLeft_cons_of_not_blank hblank, List.cons_prefix_cons] at hpre
        exact hescape ⟨hpre.1.symm, head?_of_isPrefix hpre.2 rfl⟩

/-- A text that begins like an escape has the blanks before it and the escape in front. -/
theorem isPrefix_of_trimLeft {front text : List Char} (h : front <+: trimLeft text) :
    text.takeWhile isBlank ++ front <+: text := by
  obtain ⟨rest, hrest⟩ := h
  refine ⟨rest, ?_⟩
  rw [List.append_assoc, hrest]
  exact List.takeWhile_append_dropWhile

/-- Blanks in front of a text are what is trimmed, if the text begins with none. -/
theorem trimLeft_of_isPrefix {blanks front text : List Char}
    (hblanks : ∀ c ∈ blanks, isBlank c = true)
    (hfront : ∀ c, front.head? = some c → isBlank c = false) (hsome : front ≠ [])
    (h : blanks ++ front <+: text) : front <+: trimLeft text := by
  obtain ⟨rest, rfl⟩ := h
  refine ⟨rest, ?_⟩
  have hself : trimLeft (front ++ rest) = front ++ rest := by
    refine trimLeft_eq_self fun c hc => hfront c ?_
    rwa [List.head?_append_of_ne_nil front hsome] at hc
  rw [List.append_assoc, trimLeft, List.dropWhile_append_of_pos hblanks]
  exact hself.symm

/-- A first run without a colour does not begin like an escape. -/
theorem not_isPrefix_firstText {column : Nat} (line : List Char) :
    ¬ [escapeMark, directiveMark] <+:
      trimLeft (firstText (segments (piecesFrom column 0 (dropEscape line)))) := by
  generalize htext : firstText (segments (piecesFrom column 0 (dropEscape line))) = text
  intro hpre
  -- The blanks, the backslash and the mark stand at the beginning of the text, and so of the line.
  have hfront := isPrefix_of_trimLeft hpre
  rw [← htext] at hfront
  have hblanks : ∀ c ∈ text.takeWhile isBlank, isBlank c = true := fun _ => List.mem_takeWhile_imp
  have hbrace : '{' ∉ text.takeWhile isBlank ++ [escapeMark, directiveMark] := by
    intro hmem
    rcases List.mem_append.1 hmem with hmem | hmem
    · exact absurd (hblanks _ hmem) (by decide)
    · exact absurd hmem (by decide)
  have hline := isPrefix_of_firstText (htext ▸ hbrace) hfront
  rw [htext] at hline
  refine not_isPrefix_dropEscape line (trimLeft_of_isPrefix hblanks ?_ (List.cons_ne_nil _ _) hline)
  intro c hc
  rw [← Option.some.inj hc]
  decide

/-! ## The characters of a line

  Line breaks are kept out in both directions: a line of a file has none, and what is written for
  runs without line breaks has none either. -/

/-- Dropping the backslash adds no character. -/
theorem mem_of_mem_dropEscape {c : Char} {line : List Char} (h : c ∈ dropEscape line) :
    c ∈ line := by
  induction line with
  | nil => exact h
  | cons first rest ih =>
    rw [dropEscape] at h
    split at h
    next =>
      rcases List.mem_cons.1 h with rfl | hrest
      · exact List.mem_cons_self
      · exact List.mem_cons_of_mem _ (ih hrest)
    next =>
      split at h
      next => exact List.mem_cons_of_mem _ h
      next => exact h

/-- Taking the markup away adds none, either. -/
theorem mem_of_mem_withoutMarkup {c : Char} {text : List Char} (h : c ∈ withoutMarkup text) :
    c ∈ text := by
  fun_induction withoutMarkup text with
  | case1 => exact h
  | case2 rest _ ih =>
    rcases List.mem_cons.1 h with rfl | hrest
    · exact List.mem_cons_self
    · exact List.mem_cons_of_mem _ (List.mem_of_mem_drop (ih hrest))
  | case3 rest _ after hafter ih =>
    rw [afterMarker?_eq 0] at hafter
    obtain ⟨marker, -, rfl⟩ := Option.map_eq_some_iff.1 hafter
    exact List.mem_cons_of_mem _ (List.mem_of_mem_drop (ih h))
  | case4 rest _ _ ih =>
    rcases List.mem_cons.1 h with rfl | hrest
    · exact List.mem_cons_self
    · exact List.mem_cons_of_mem _ (ih hrest)
  | case5 first rest _ ih =>
    rcases List.mem_cons.1 h with rfl | hrest
    · exact List.mem_cons_self
    · exact List.mem_cons_of_mem _ (ih hrest)

/-- The runs of a line show characters of the line. -/
theorem mem_of_mem_content {grammar : Grammar} {column : Nat} {line : List Char}
    {runs : List TextRun}
    (h : spanRuns grammar none (segments (piecesFrom column 0 (dropEscape line))).1
      (segments (piecesFrom column 0 (dropEscape line))).2 = .ok runs) {run : TextRun}
    (hmem : run ∈ runs) {c : Char} (hc : c ∈ run.content.toList) : c ∈ line := by
  obtain ⟨hwritten, hends⟩ := written_of_spanRuns h
  rw [segments_flatMap, keptChars_piecesFrom, List.drop_zero] at hwritten
  have hinner : run.written = run.content := by
    rw [TextRun.written, hends run hmem, if_neg Bool.false_ne_true]
  have hshown : c ∈ written runs := List.mem_flatMap.2 ⟨run, hmem, by rwa [hinner]⟩
  rw [hwritten] at hshown
  exact mem_of_mem_dropEscape (mem_of_mem_withoutMarkup hshown)

/-- A character that no run shows, and that no marker has, is not in the line that is written. -/
theorem not_mem_writeLine {c : Char} {runs : List TextRun}
    (htags : ∀ run ∈ runs, ∀ color, run.color = some color → isWord color.toList = true)
    (hruns : ∀ run ∈ runs, c ∉ run.content.toList) (hword : isWordChar c = false)
    (hmarks : c ∉ ['{', '}', '/', escapeMark]) : c ∉ writeLine runs := by
  -- Doubling adds only braces.
  have hdoubled : ∀ text, c ∉ text → c ∉ doubled text := by
    intro text htext hmem
    obtain ⟨first, hfirst, hc⟩ := List.mem_flatMap.1 hmem
    split at hc
    next hbrace =>
      rcases List.mem_pair.1 hc with rfl | rfl <;> exact hmarks List.mem_cons_self
    next =>
      rw [List.mem_singleton.1 hc] at htext
      exact htext hfirst
  -- Tags add only braces, the slash and the characters of their words.
  have hwritten : c ∉ writeRuns runs := by
    intro hmem
    obtain ⟨run, hrun, hc⟩ := List.mem_flatMap.1 hmem
    rw [writeRun] at hc
    cases hcolor : run.color with
    | none =>
      rw [hcolor] at hc
      exact hdoubled _ (hruns run hrun) hc
    | some color =>
      have htag : c ∉ color.toList := fun hin => by
        rw [isWordChar_of_mem (htags run hrun color hcolor) hin] at hword
        cases hword
      rw [hcolor] at hc
      simp only [openTag, closeTag, List.mem_append, List.mem_cons, List.not_mem_nil, or_false,
        htag, hdoubled _ (hruns run hrun)] at hc hmarks
      tauto
  intro hmem
  rw [writeLine, putEscape] at hmem
  split at hmem
  next =>
    rcases List.mem_append.1 hmem with hblank | hrest
    · exact hwritten (List.takeWhile_subset _ hblank)
    · rcases List.mem_cons.1 hrest with rfl | hrest
      · exact hmarks (by decide)
      · exact hwritten (List.dropWhile_subset _ hrest)
  next => exact hwritten hmem

/-! ## What is read can be written

  The form of the runs was found before the end of the line was put on them.  That changes neither
  the text nor the colour of a run, so what was found is carried over by looking at these two only;
  a line without runs is the exception, as it gets one. -/

/-- The text and the colour of a run. -/
def face (run : TextRun) : String × Option String := (run.content, run.color)

/-- The end of the line changes no text and no colour. -/
theorem map_face_endLine {runs : List TextRun} (h : runs ≠ []) :
    (endLine runs).map face = runs.map face := by
  induction runs with
  | nil => exact absurd rfl h
  | cons run rest ih =>
    cases rest with
    | nil => rfl
    | cons next rest =>
      rw [endLine, List.map_cons, ih (List.cons_ne_nil next rest)]
      rfl

/-- What holds of all texts and colours within a line holds at its end. -/
theorem forall_endLine {p : String × Option String → Prop} {runs : List TextRun} (hsome : runs ≠ [])
    (h : ∀ run ∈ runs, p (face run)) : ∀ run ∈ endLine runs, p (face run) := by
  intro run hmem
  have hface : face run ∈ (endLine runs).map face := List.mem_map_of_mem hmem
  rw [map_face_endLine hsome] at hface
  obtain ⟨other, hother, heq⟩ := List.mem_map.1 hface
  rw [← heq]
  exact h other hother

theorem isWritableLine_nil (grammar : Grammar) : IsWritableLine grammar (endLine []) where
  line := .last rfl
  tags := List.forall_mem_cons.2 ⟨nofun, nofun⟩
  apart := .singleton _
  full := List.forall_mem_cons.2 ⟨fun _ _ => rfl, nofun⟩
  unbroken := List.forall_mem_cons.2 ⟨by decide, nofun⟩
  plain := by
    intro run hrun _
    cases hrun
    decide

/-- The runs of a line, before the end of the line is put on them. -/
theorem exists_spanRuns {grammar : Grammar} {line : List Char} {runs : List TextRun}
    (h : readNarrative grammar line = .ok runs) :
    ∃ column inner,
      let gathered := segments (piecesFrom column 0 (dropEscape line))
      spanRuns grammar none gathered.1 gathered.2 = .ok inner ∧
        (∀ segment ∈ gathered.1, isWord segment.2.tag = true) ∧ endLine inner = runs := by
  rw [readNarrative, unescape_eq] at h
  obtain ⟨inner, hinner, hruns⟩ := map_eq_ok_iff.1 h
  exact ⟨_, inner, hinner,
    fun segment hmem => isWord_of_mem_piecesFrom (mem_of_mem_segments hmem), hruns⟩

/-- The colours of a line are tags of the grammar. -/
theorem mem_colors_of_readNarrative {grammar : Grammar} {line : List Char} {runs : List TextRun}
    (h : readNarrative grammar line = .ok runs) {run : TextRun} (hmem : run ∈ runs)
    {color : String} (hcolor : run.color = some color) : color ∈ grammar.colors := by
  obtain ⟨column, inner, hinner, hwords, rfl⟩ := exists_spanRuns h
  have hform := innerForm_of_spanRuns hwords hinner
  by_cases hsome : inner = []
  · rw [hsome] at hmem
    cases List.mem_singleton.1 hmem
    cases hcolor
  · exact forall_endLine (p := fun face => ∀ color, face.2 = some color → color ∈ grammar.colors)
      hsome (fun run hrun color hcolor => (hform.tags run hrun color hcolor).1) run hmem color
      hcolor

/-- **What a line is read as can be written.** -/
theorem isWritableLine_of_readNarrative {grammar : Grammar} {line : List Char}
    {runs : List TextRun} (h : readNarrative grammar line = .ok runs) (hfeed : '\n' ∉ line)
    (hreturn : '\r' ∉ line) : IsWritableLine grammar runs := by
  have hline := isLine_of_readNarrative h
  obtain ⟨column, inner, hinner, hwords, rfl⟩ := exists_spanRuns h
  have hform := innerForm_of_spanRuns hwords hinner
  by_cases hsome : inner = []
  · rw [hsome]
    exact isWritableLine_nil grammar
  · exact
      { line := hline
        tags := forall_endLine (p := fun face => ∀ color, face.2 = some color →
          color ∈ grammar.colors ∧ isWord color.toList = true) hsome hform.tags
        apart := by
          have hfaces := (List.isChain_map face
            (R := fun face next => ¬ (face.2 = none ∧ next.2 = none))).2 hform.apart
          rw [← map_face_endLine hsome] at hfaces
          exact (List.isChain_map face).1 hfaces
        full := by
          intro run hmem hcolor hempty
          exact absurd hempty (forall_endLine (p := fun face => face.2 = none → face.1 ≠ "") hsome
            hform.full run hmem hcolor)
        unbroken := forall_endLine
          (p := fun face => '\n' ∉ face.1.toList ∧ '\r' ∉ face.1.toList) hsome
          fun run hmem => ⟨fun hc => hfeed (mem_of_mem_content hinner hmem hc),
            fun hc => hreturn (mem_of_mem_content hinner hmem hc)⟩
        plain := by
          intro run hfirst hplain
          have hface : (inner.map face).head? = some (face run) := by
            rw [← map_face_endLine hsome, List.head?_map, hfirst]
            rfl
          rw [List.head?_map] at hface
          obtain ⟨other, hother, heq⟩ := Option.map_eq_some_iff.1 hface
          obtain ⟨hcontent, hcolor⟩ := Prod.mk.inj heq
          rw [← hcontent, content_of_first hwords hinner hother (hcolor.trans hplain)]
          exact not_isPrefix_firstText line }

/-! ## The round trip

  One direction is about any grammar and any runs, the other about any file and any of its lines. -/

/-- Inside a block, a line that was written adds the nodes of its runs. -/
theorem takeLine_writeLine {grammar : Grammar} {runs : List TextRun}
    (h : IsWritableLine grammar runs) {draft : Draft} {block : OpenBlock}
    (hcurrent : draft.current = some block) (number : Nat) :
    draft.takeLine grammar number (writeLine runs) =
      .ok (draft.continueWith (block.flush.add (runs.map .text))) := by
  rw [Draft.takeLine, hcurrent]
  dsimp only
  rw [read_writeLine h]
  rfl

/-- The story of a file that has one block with one line in it. -/
theorem readLines_writeLine {grammar : Grammar} {runs : List TextRun}
    (h : IsWritableLine grammar runs) {opener closer : List Char} {name : String}
    {directive : Directive} (hopener : Announces grammar opener (.block name directive))
    (hcloser : Says grammar closer .endBlock) (fileId : String) :
    readLines grammar fileId [opener, writeLine runs, closer] =
      .ok { fileId, blocks := [{ name, nodes := runs.map .text, line := 1 }], entry := some name }
    := by
  have hbody : Items grammar [writeLine runs] (runs.map .text ++ []) :=
    .narrative (read_eq_ok_iff.1 (read_writeLine h)) .nil
  rw [List.append_nil] at hbody
  refine readLines_eq_ok_iff.2 ⟨_, [], .block hopener hbody hcloser .nil, ?_, Nat.zero_le 1, nofun,
    rfl⟩
  exact List.pairwise_singleton _ name

/-- **Writing and reading narrative lines are inverse.** Runs of the form that can be written are
    written as a line without line breaks that is read as the same runs, wherever it stands inside a
    block; and every line of a file that is read as narrative gives runs of this form. -/
theorem narrative_roundTrip :
    (∀ (grammar : Grammar) (runs : List TextRun), IsWritableLine grammar runs →
      ('\n' ∉ writeLine runs ∧ '\r' ∉ writeLine runs) ∧
      Statement.read grammar (writeLine runs) = .ok (.narrative runs) ∧
      (∀ (draft : Draft) (block : OpenBlock) (number : Nat), draft.current = some block →
        draft.takeLine grammar number (writeLine runs) =
          .ok (draft.continueWith (block.flush.add (runs.map .text)))) ∧
      ∀ (fileId : String) (opener closer : List Char) (name : String) (directive : Directive),
        Announces grammar opener (.block name directive) → Says grammar closer .endBlock →
        readLines grammar fileId [opener, writeLine runs, closer] =
          .ok { fileId, blocks := [{ name, nodes := runs.map .text, line := 1 }],
                entry := some name }) ∧
    ∀ (grammar : Grammar) (text line : List Char) (runs : List TextRun), line ∈ linesOf text →
      Statement.read grammar line = .ok (.narrative runs) → IsWritableLine grammar runs := by
  refine ⟨fun grammar runs h => ?_, fun grammar text line runs hline hread => ?_⟩
  · have htags := fun run hrun color hcolor => (h.tags run hrun color hcolor).2
    refine ⟨⟨?_, ?_⟩, read_writeLine h, fun draft block number hcurrent =>
      takeLine_writeLine h hcurrent number, fun fileId opener closer name directive hopener
        hcloser => readLines_writeLine h hopener hcloser fileId⟩
    · exact not_mem_writeLine htags (fun run hrun => (h.unbroken run hrun).1) (by decide)
        (by decide)
    · exact not_mem_writeLine htags (fun run hrun => (h.unbroken run hrun).2) (by decide)
        (by decide)
  · obtain ⟨hfeed, hreturn⟩ := not_mem_of_mem_linesOf hline
    have hsays := read_eq_ok_iff.1 hread
    exact isWritableLine_of_readNarrative (isNarrative_of_narrative hsays).2 hfeed hreturn

/-- An escaped line with braces next to its tags, and a span with nothing in it. -/
def signLine : String :=
  " \\@home \x7b\x7b\x7bred\x7dhot\x7b\x7b\x7b/red\x7d\x7bblue\x7d\x7b/blue\x7d\x7d"

def signRuns : List TextRun :=
  [⟨" @home \x7b", none, false⟩, ⟨"hot\x7b", some "red", false⟩, ⟨"", some "blue", false⟩,
    ⟨"\x7d", none, true⟩]

theorem narrative_roundTrip_sign :
    IsWritableLine {} signRuns ∧ writeLine signRuns = signLine.toList ∧
      Statement.read {} (writeLine signRuns) = .ok (.narrative signRuns) := by
  have hread : Statement.read {} signLine.toList = .ok (.narrative signRuns) := by rfl
  have hline : signLine.toList ∈ linesOf signLine.toList := by decide +kernel
  have hform := narrative_roundTrip.2 {} signLine.toList signLine.toList signRuns hline hread
  exact ⟨hform, by decide +kernel, (narrative_roundTrip.1 {} signRuns hform).2.1⟩

end Gamebook.Markup
