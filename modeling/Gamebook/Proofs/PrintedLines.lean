/-
  What a narrative line of a file comes to on a console.

  A file says of a line that it is a prompt: it begins with two spaces.  A console never sees the
  line; it is handed runs, and goes by the first of them.  That both come to the same
  (`opensPrompt_first`) takes three facts about reading a line:

  1. **The escape** stands after the blanks of a line, so the line begins with the same blanks
     without it (`isPrefix_dropEscape_iff`).

  2. **The first text**, which ends at the first marker, begins with what the line begins with, as
     long as no brace is in it (`isPrefix_firstText_iff`).

  3. **The first run** is the first text, unless that is empty; then it is the text of a span, which
     has a colour, and no prompt is opened (`isPrefix_first_iff`).

  From there on the runs of the line are written one after the other in the colour of the line, by
  induction over them (`Console.displayAll_within`).
-/
import Gamebook.Proofs.NarrativeRoundTrip
import Gamebook.Proofs.TextModes

namespace Gamebook

open Markup Text

namespace Markup

/-! ## What a line begins with

  The question is asked for any blanks in front, not only for two spaces; that is what the
  inductions go by. -/

/-- The line begins with two spaces. -/
def isPromptLine (line : List Char) : Bool := [' ', ' '].isPrefixOf line

/-- A line begins with the same blanks without its escape. -/
theorem isPrefix_dropEscape_iff {front : List Char} (hblank : ∀ c ∈ front, isBlank c = true)
    {line : List Char} : front <+: dropEscape line ↔ front <+: line := by
  induction front generalizing line with
  | nil => exact iff_of_true List.nil_prefix List.nil_prefix
  | cons c front ih =>
    obtain ⟨hc, hfront⟩ := List.forall_mem_cons.1 hblank
    cases line with
    | nil => exact Iff.rfl
    | cons first rest =>
      rw [dropEscape]
      by_cases hfirst : isBlank first = true
      · rw [if_pos hfirst, List.cons_prefix_cons, List.cons_prefix_cons, ih hfront]
      · -- A blank in front stands neither before the escape nor before the mark behind it.
        have hne : c ≠ first := fun heq => hfirst (heq ▸ hc)
        rw [if_neg hfirst, List.cons_prefix_cons]
        refine iff_of_false (fun hpre => ?_) (fun hpre => hne hpre.1)
        split at hpre
        next hescape =>
          have hmark : c = directiveMark :=
            Option.some.inj ((head?_of_isPrefix hpre rfl).symm.trans hescape.2)
          rw [hmark] at hc
          exact absurd hc (by decide)
        next => exact hne (List.cons_prefix_cons.1 hpre).1

/-- A text without a brace is in front of the first text if it is in front of the line. -/
theorem isPrefix_firstText_iff {column : Nat} {text front : List Char} (hfront : '{' ∉ front) :
    front <+: firstText (segments (piecesFrom column 0 text)) ↔ front <+: text := by
  refine ⟨isPrefix_of_firstText hfront, fun h => ?_⟩
  induction front generalizing column text with
  | nil => exact List.nil_prefix
  | cons c front ih =>
    obtain ⟨rest, rfl⟩ := h
    rw [List.mem_cons, not_or] at hfront
    rw [List.cons_append, piecesFrom, if_neg (Ne.symm hfront.1), firstText_char]
    exact List.cons_prefix_cons.2 ⟨rfl, ih hfront.2 (List.prefix_append front rest)⟩

/-! ## The first run

  A line has a first run, whatever it holds.  Before the end of the line is put on it there may be
  none, which is why both sides are compared by their text and colour. -/

/-- A first text that is not empty is the first run, and has no colour. -/
theorem head?_of_firstText {grammar : Grammar} {gathered : List (List Char × Marker) × List Char}
    {runs : List TextRun} (h : spanRuns grammar none gathered.1 gathered.2 = .ok runs)
    (hsome : firstText gathered ≠ []) :
    runs.head? = some (innerRun (firstText gathered) none) := by
  obtain ⟨_ | ⟨⟨text, marker⟩, rest⟩, tail⟩ := gathered
  · cases h
    exact congrArg List.head? (if_neg (mt List.isEmpty_iff.1 hsome))
  · obtain ⟨-, ⟨-, others, -, rfl⟩ | ⟨hnone, -⟩⟩ := spanRuns_cons_cases h
    · exact congrArg List.head? (if_neg (mt List.isEmpty_iff.1 hsome))
    · cases hnone

theorem map_face_head?_endLine {runs : List TextRun} (h : runs ≠ []) :
    (endLine runs).head?.map face = runs.head?.map face := by
  rw [← List.head?_map, map_face_endLine h, List.head?_map]

/-- The first run of a line has no colour and begins with these blanks exactly if the line does. -/
theorem isPrefix_first_iff {grammar : Grammar} {line : List Char} {first : TextRun}
    {rest : List TextRun} (h : readNarrative grammar line = .ok (first :: rest))
    {front : List Char} (hsome : front ≠ []) (hblank : ∀ c ∈ front, isBlank c = true) :
    first.color = none ∧ front <+: first.content.toList ↔ front <+: line := by
  obtain ⟨column, inner, hinner, hwords, hruns⟩ := exists_spanRuns h
  have hbrace : '{' ∉ front := fun hmem => absurd (hblank _ hmem) (by decide)
  have hline : front <+: firstText (segments (piecesFrom column 0 (dropEscape line))) ↔
      front <+: line := (isPrefix_firstText_iff hbrace).trans (isPrefix_dropEscape_iff hblank)
  have hfront : ∀ {text : List Char}, front <+: text → text ≠ [] := fun hpre hempty =>
    hsome (List.prefix_nil.1 (hempty ▸ hpre))
  -- The first run of the line is the first of those within it, but for the end of the line.
  have hhead : inner ≠ [] → inner.head?.map face = some (face first) := fun hinner => by
    rw [← map_face_head?_endLine hinner, hruns]
    rfl
  constructor
  · rintro ⟨hplain, hpre⟩
    have hinnerSome : inner ≠ [] := by
      rintro rfl
      cases hruns
      exact hfront hpre rfl
    obtain ⟨run, hrun, hface⟩ := Option.map_eq_some_iff.1 (hhead hinnerSome)
    obtain ⟨hcontent, hcolor⟩ := Prod.mk.inj hface
    rw [← hcontent, content_of_first hwords hinner hrun (hcolor.trans hplain)] at hpre
    exact hline.1 hpre
  · intro hpre
    have htext := hline.2 hpre
    have hrun := head?_of_firstText hinner (hfront htext)
    have hinnerSome : inner ≠ [] := by
      rintro rfl
      cases hrun
    have hface := hhead hinnerSome
    rw [hrun] at hface
    obtain ⟨hcontent, hcolor⟩ := Prod.mk.inj (Option.some.inj hface)
    rw [← hcolor, ← hcontent]
    exact ⟨rfl, by rwa [innerRun, String.toList_ofList]⟩

end Markup

/-! ## The calls for a line

  A run is one call for its text, and one more if it ends the line.  The colour of the line is
  settled by the first call and stays until the last. -/

/-- What a console is handed for some runs, in its order. -/
def callsOf (runs : List TextRun) : List Shown := runs.flatMap fun run => run.events.reverse

theorem callsOf_cons (run : TextRun) (rest : List TextRun) :
    callsOf (run :: rest) =
      .text run.content run.color ::
        ((if run.endsLine then [.lineEnd] else []) ++ callsOf rest) := by
  rw [callsOf, List.flatMap_cons, TextRun.events]
  split <;> rfl

namespace Console

/-- A console that has been made, and handed what was shown. -/
inductive IsReached : Console → Prop
  | fresh (mode : TextMode) (useColor : Bool) : IsReached ⟨mode, useColor, true, none⟩
  | display {console : Console} (h : IsReached console) (event : Shown) :
      IsReached (console.display event).1

/-- The line that a console begins has no colour yet. -/
theorem IsReached.isAtRest {console : Console} (h : console.IsReached)
    (hstart : console.atLineStart = true) : console.IsAtRest := by
  cases h with
  | fresh => exact ⟨rfl, rfl⟩
  | display _ event =>
    cases event with
    | text content color => cases hstart
    | lineEnd => exact ⟨rfl, rfl⟩

/-- The console in the course of a line of this colour. -/
def within (console : Console) (lineColor : Option String) : Console :=
  { console with atLineStart := false, lineColor }

variable (console : Console)

/-- A run without a colour of its own has the colour of the line. -/
theorem effectiveColor_eq {color : Option String} (h : color ≠ some "") :
    console.effectiveColor color = color.or console.lineColor := by
  cases color with
  | none => rfl
  | some name =>
    have hname : ¬ name.isEmpty = true := fun hempty =>
      h (congrArg some (String.isEmpty_iff.1 hempty))
    rw [effectiveColor, if_neg hname]
    rfl

/-- In the course of a line a run is written in its colour, and nothing else changes. -/
theorem render_within (lineColor : Option String) (text : String) {color : Option String}
    (h : color ≠ some "") :
    (console.within lineColor).render text color =
      (console.within lineColor, console.writeOut text (color.or lineColor)) := by
  have hcolor : (console.within lineColor).effectiveColor color = color.or lineColor :=
    effectiveColor_eq _ h
  rw [← hcolor]
  rfl

/-- At the start of a line, a run that makes it a prompt has an empty line before it; from there on
    all is as in the course of a line, in the colour of a prompt or in none. -/
theorem displayAll_start (hrest : console.IsAtRest) (text : String) {color : Option String}
    (h : color ≠ some "") (events : List Shown) :
    let prompt := console.opensPrompt text color
    let result := (console.within (if prompt then some promptColor else none)).displayAll
      (.text text color :: events)
    console.displayAll (.text text color :: events) =
      (result.1, (if prompt then [.write "\n"] else []) ++ result.2) := by
  intro prompt result
  have hafter : console.afterText text color =
      console.within (if prompt then some promptColor else none) := by
    rw [afterText, within, hrest.color]
  have hresult : result = _ := displayAll.eq_2 _ _ _
  rw [display, render_within _ _ _ h] at hresult
  rw [displayAll, display, render_eq, hafter, effectiveColor_eq _ h, hresult]
  exact congrArg (Prod.mk _) (List.append_assoc _ _ _)

/-- **A line under way**: its runs are written in their colours, and the line is ended. -/
theorem displayAll_within {runs : List TextRun} (hline : IsLine runs)
    (hcolors : ∀ run ∈ runs, run.color ≠ some "") (lineColor : Option String) :
    (console.within lineColor).displayAll (callsOf runs) =
      ({ console with atLineStart := true, lineColor := none },
        (runs.flatMap fun run => console.writeOut run.content (run.color.or lineColor)) ++
          console.endLine.2) := by
  induction hline with
  | @last run hends =>
    have hcolor := hcolors run List.mem_cons_self
    rw [callsOf_cons, hends, if_pos rfl, displayAll, display, render_within _ _ _ hcolor,
      List.flatMap_singleton]
    exact congrArg (Prod.mk _) (congrArg _ (List.append_nil _))
  | @cons run rest hinner _ ih =>
    obtain ⟨hcolor, hrest⟩ := List.forall_mem_cons.1 hcolors
    rw [callsOf_cons, hinner, if_neg Bool.false_ne_true, List.nil_append, displayAll, display,
      render_within _ _ _ hcolor]
    dsimp only
    rw [ih hrest, List.flatMap_cons, List.append_assoc]

/-- The console opens a prompt with the first run of a line exactly if the line is one. -/
theorem opensPrompt_first {console : Console} (hstart : console.atLineStart = true)
    {grammar : Grammar} {line : List Char} {first : TextRun} {rest : List TextRun}
    (h : readNarrative grammar line = .ok (first :: rest)) :
    console.opensPrompt first.content first.color = isPromptLine line := by
  have hindent : promptIndent.toList = [' ', ' '] := by decide
  have hblank : ∀ c ∈ [' ', ' '], isBlank c = true := List.all_eq_true.1 (by decide)
  rw [Bool.eq_iff_iff, isPromptLine, List.isPrefixOf_iff_prefix,
    ← isPrefix_first_iff h (List.cons_ne_nil _ _) hblank, opensPrompt, hstart, hindent,
    Bool.true_and, Bool.and_eq_true, Option.isNone_iff_eq_none, List.isPrefixOf_iff_prefix]

/-- **A whole line**, from the start of one to the start of the next. -/
theorem displayAll_line {console : Console} (hrest : console.IsAtRest) {grammar : Grammar}
    {line : List Char} {runs : List TextRun} (h : readNarrative grammar line = .ok runs)
    (hcolors : ∀ run ∈ runs, run.color ≠ some "") :
    let lineColor := if isPromptLine line then some promptColor else none
    console.displayAll (callsOf runs) =
      (console, (if isPromptLine line then [.write "\n"] else []) ++
        (runs.flatMap fun run => console.writeOut run.content (run.color.or lineColor)) ++
          console.endLine.2) := by
  intro lineColor
  have hline := isLine_of_readNarrative h
  obtain ⟨first, rest, rfl⟩ : ∃ first rest, runs = first :: rest := by
    cases hline <;> exact ⟨_, _, rfl⟩
  have hstart := console.displayAll_start hrest first.content (hcolors first List.mem_cons_self)
    ((if first.endsLine then [.lineEnd] else []) ++ callsOf rest)
  rw [opensPrompt_first hrest.start h, ← callsOf_cons] at hstart
  dsimp only at hstart
  rw [displayAll_within console hline hcolors] at hstart
  have hback : { console with atLineStart := true, lineColor := none } = console := by
    rw [← hrest.start, ← hrest.color]
  rw [hback] at hstart
  rw [hstart, List.append_assoc]

end Console

/-! ## What is written for a line

  In colours each run is painted by itself, in one go or character by character.  Without colours
  nothing of this is left, and the text of the line does not depend on how it was divided. -/

/-- A run as it is written in this mode, in a colour. -/
def painted (mode : TextMode) (content : String) (color : Option String) : List Char :=
  match mode with
  | .instant => (colorize content color).toList
  | .typewriter => content.toList.flatMap fun c => (colorize (String.ofList [c]) color).toList

/-- With colours a run is written as it is painted in the mode of the console. -/
theorem stream_writeOut_of_colored {console : Console} (h : console.useColor = true)
    (text : String) (color : Option String) :
    stream (console.writeOut text color) = painted console.mode text color := by
  have hpaint : ∀ text, console.paint text color = colorize text color := fun text => by
    rw [Console.paint, h, if_pos rfl]
  rw [Console.writeOut]
  cases console.mode with
  | instant => exact (Console.stream_write _).trans (congrArg String.toList (hpaint text))
  | typewriter =>
    refine (console.stream_typeOut text color).trans ?_
    simp only [hpaint]
    rfl

/-- The runs of a line show its text, and the line feed is what is written at the end of it. -/
theorem written_of_isLine {runs : List TextRun} (h : IsLine runs) :
    written runs = (runs.flatMap fun run => run.content.toList) ++ ['\n'] := by
  induction h with
  | @last run hends =>
    rw [written_cons, TextRun.written, if_pos hends, String.toList_append, List.flatMap_singleton]
    exact List.append_nil _
  | @cons run rest hinner _ ih =>
    have hrun : run.written = run.content := by
      rw [TextRun.written, hinner, if_neg Bool.false_ne_true]
    rw [written_cons, hrun, ih, List.flatMap_cons, List.append_assoc]

section

variable {console : Console} (hrest : console.IsAtRest) {grammar : Grammar} {line : List Char}
  {runs : List TextRun} (h : readNarrative grammar line = .ok runs)
  (hcolors : ∀ run ∈ runs, run.color ≠ some "")
include hrest h hcolors

/-- What is written for the runs of a line: an empty line for a prompt, the runs in their colours,
    and a line feed. -/
theorem stream_line :
    let lineColor := if isPromptLine line then some Console.promptColor else none
    stream (console.displayAll (callsOf runs)).2 =
      (if isPromptLine line then ['\n'] else []) ++
        (runs.flatMap fun run => stream (console.writeOut run.content (run.color.or lineColor))) ++
          ['\n'] := by
  intro lineColor
  have hfeed : stream (if isPromptLine line then [.write "\n"] else []) =
      if isPromptLine line then ['\n'] else [] := by split <;> rfl
  rw [Console.displayAll_line hrest h hcolors]
  dsimp only
  rw [stream_append, stream_append, hfeed, stream_flatMap, Console.stream_endLine]

/-- Without colours the text of the line is written, whatever runs it was divided into. -/
theorem stream_line_of_uncolored (huncolored : console.useColor = false) :
    stream (console.displayAll (callsOf runs)).2 =
      (if isPromptLine line then ['\n'] else []) ++ clean line ++ ['\n'] := by
  have hwritten := written_of_isLine (isLine_of_readNarrative h)
  rw [written_of_readNarrative h] at hwritten
  rw [stream_line hrest h hcolors]
  simp only [Console.stream_writeOut_of_uncolored _ huncolored]
  rw [List.append_assoc, ← hwritten, List.append_assoc]

end

/-- Every colour of the default grammar is one the console can paint. -/
theorem isKnown_of_mem_colors {color : String} (h : color ∈ ({} : Grammar).colors) :
    color ≠ "" ∧ (colorNumber? color).isSome = true := by
  have hall : ∀ color ∈ ({} : Grammar).colors,
      color ≠ "" ∧ (colorNumber? color).isSome = true := by decide
  exact hall color h

/-- **From a line of a file to the terminal.** Hand the runs of a narrative line to a console that
    is at the start of a line, whatever it was handed before. Without colours, in either mode, it
    writes the line without its markup and a line feed, and an empty line before that exactly if
    the line begins with two spaces. With colours every run of such a line is painted in its own
    colour or else in cyan, and every run of another line in its own colour or in none. Then the
    console is as it was, at the start of a line that has no colour. -/
theorem printed_of_narrative {line : List Char} {runs : List TextRun}
    (hread : Statement.read {} line = .ok (.narrative runs)) {console : Console}
    (hreached : console.IsReached) (hstart : console.atLineStart = true) :
    let lineFeed := if isPromptLine line then ['\n'] else []
    let lineColor := if isPromptLine line then some "cyan" else none
    let result := console.displayAll (callsOf runs)
    result.1 = console ∧ console.IsAtRest ∧
      (console.useColor = false → stream result.2 = lineFeed ++ clean line ++ ['\n']) ∧
      (console.useColor = true → stream result.2 = lineFeed ++
        (runs.flatMap fun run => painted console.mode run.content (run.color.or lineColor)) ++
          ['\n']) ∧
      ∀ run ∈ runs, ∀ color, run.color = some color → (colorNumber? color).isSome = true := by
  have hrest := hreached.isAtRest hstart
  have hnarrative := (isNarrative_of_narrative (read_eq_ok_iff.1 hread)).2
  have hknown : ∀ run ∈ runs, ∀ color, run.color = some color →
      color ≠ "" ∧ (colorNumber? color).isSome = true := fun _ hrun _ hcolor =>
    isKnown_of_mem_colors (mem_colors_of_readNarrative hnarrative hrun hcolor)
  have hcolors : ∀ run ∈ runs, run.color ≠ some "" := fun run hrun hempty =>
    (hknown run hrun "" hempty).1 rfl
  intro lineFeed lineColor result
  refine ⟨?_, hrest, stream_line_of_uncolored hrest hnarrative hcolors, fun hcolored => ?_,
    fun run hrun color hcolor => (hknown run hrun color hcolor).2⟩
  · exact congrArg Prod.fst (Console.displayAll_line hrest hnarrative hcolors)
  · refine (stream_line hrest hnarrative hcolors).trans ?_
    simp only [stream_writeOut_of_colored hcolored]
    rfl

/-- A prompt with an escaped mark, a doubled brace and a word in a colour. -/
def promptLine : List Char := "  \\@\x7b\x7b Open the \x7bred\x7ddoor\x7b/red\x7d?".toList

def promptRuns : List TextRun :=
  [⟨"  @\x7b Open the ", none, false⟩, ⟨"door", some "red", false⟩, ⟨"?", none, true⟩]

/-- A console that has shown a prompt. -/
def secondLine (mode : TextMode) (useColor : Bool) : Console :=
  (((Console.mk mode useColor true none).display (.text "  Well?" none)).1.display .lineEnd).1

theorem printed_of_narrative_door :
    Statement.read {} promptLine = .ok (.narrative promptRuns) ∧
      (∀ mode useColor, (secondLine mode useColor).IsReached ∧
        (secondLine mode useColor).atLineStart = true) ∧
      (∀ mode, stream ((secondLine mode false).displayAll (callsOf promptRuns)).2 =
        "\n  @\x7b Open the door?\n".toList) ∧
      stream ((secondLine .instant true).displayAll (callsOf promptRuns)).2 =
        ("\n\x1b[36m  @\x7b Open the \x1b[0m" ++ "\x1b[31mdoor\x1b[0m" ++
          "\x1b[36m?\x1b[0m\n").toList := by
  have hread : Statement.read {} promptLine = .ok (.narrative promptRuns) := by rfl
  have hreached : ∀ mode useColor, (secondLine mode useColor).IsReached := fun mode useColor =>
    .display (.display (.fresh mode useColor) _) _
  have hline := fun mode useColor =>
    printed_of_narrative hread (hreached mode useColor) rfl
  refine ⟨hread, fun mode useColor => ⟨hreached mode useColor, rfl⟩, fun mode => ?_, ?_⟩
  · rw [(hline mode false).2.2.1 rfl]
    decide +kernel
  · rw [(hline .instant true).2.2.2.1 rfl]
    decide +kernel

end Gamebook
