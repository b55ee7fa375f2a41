/-
  Both text modes show the same screen.

  In instant mode a run is written at once, between the sequence of its colour and the one that
  turns colours off.  In typewriter mode every character of it is written by itself, between
  sequences of its own.  Two streams that differ so much are compared by what a terminal makes of
  them.

  * `Terminal`: reads a stream character by character, and takes the sequences that set a colour and
    turn it off for what they are.
  * `Console.picture`: the cells a console means to show, with no regard to its mode.

  Either stream makes the picture of its console (`Console.shows_displayAll`).  One call begins and
  ends with colours turned off and no sequence begun (`Terminal.Shows`), so what it adds to the
  screen does not depend on the calls before it, and the calls of a whole run are put together by
  induction over them.

  Without colours there is nothing to compare: both modes write the same characters, even if a text
  holds a sequence of its own.  With colours it could not be so, for a sequence that is written a
  character at a time is broken up by the sequences around each character; hence the condition that
  no run begins one.
-/
import Gamebook.Session

namespace Gamebook

/-! ## Terminals

  A terminal is in the text, or in a sequence of which it has read a part.  Sequences of other kinds
  than those for colours end at their first character that is neither a digit nor a semicolon, which
  is as much as is needed here: the console writes no others. -/

/-- A character on a screen, and the number of the colour that was turned on. -/
structure Cell where
  char : Char
  color : Option Nat
deriving DecidableEq

/-- Where a terminal is in what it reads. -/
inductive Reading where
  | text
  /-- A sequence is begun. -/
  | escape
  /-- These are the characters of a sequence so far. -/
  | sequence (code : List Char)
deriving DecidableEq

/-- A terminal, as far as colours go. -/
structure Terminal where
  reading : Reading := .text
  /-- The number of the colour that is turned on. -/
  color : Option Nat := none
  cells : List Cell := []
deriving DecidableEq

namespace Terminal

/-- The colour after a sequence: zero turns colours off, the numbers of the palette turn one on, and
    other sequences leave it as it is. -/
def selectColor (color : Option Nat) (code : List Char) : Option Nat :=
  match Text.readNatural? code with
  | some 0 => none
  | some number => if 31 ≤ number ∧ number ≤ 37 then some number else color
  | none => color

/-- Reads one character. -/
def feed (terminal : Terminal) (c : Char) : Terminal :=
  match terminal.reading with
  | .text =>
    if c = '\x1b' then { terminal with reading := .escape }
    else { terminal with cells := terminal.cells ++ [⟨c, terminal.color⟩] }
  -- A sequence that sets a colour goes on with a bracket, digits and a letter.
  | .escape => { terminal with reading := if c = '[' then .sequence [] else .text }
  | .sequence code =>
    if c.isDigit || c = ';' then { terminal with reading := .sequence (code ++ [c]) }
    else if c = 'm' then
      { terminal with reading := .text, color := selectColor terminal.color code }
    else { terminal with reading := .text }

/-- Reads what is written. -/
def read (terminal : Terminal) (written : List Char) : Terminal := written.foldl feed terminal

theorem read_append (terminal : Terminal) (first second : List Char) :
    terminal.read (first ++ second) = (terminal.read first).read second := List.foldl_append

/-- The text a console writes adds these cells to a screen, and leaves colours turned off. -/
def Shows (written : List Char) (added : List Cell) : Prop :=
  ∀ cells : List Cell, (Terminal.mk .text none cells).read written = ⟨.text, none, cells ++ added⟩

theorem Shows.nil : Shows [] [] := fun cells => by rw [List.append_nil]; rfl

theorem Shows.append {first second : List Char} {added others : List Cell}
    (hfirst : Shows first added) (hsecond : Shows second others) :
    Shows (first ++ second) (added ++ others) := fun cells => by
  rw [read_append, hfirst, hsecond, List.append_assoc]

/-- Text that begins no sequence appears in the colour that is turned on. -/
theorem read_text (color : Option Nat) {text : List Char} (hplain : '\x1b' ∉ text)
    (cells : List Cell) :
    (Terminal.mk .text color cells).read text = ⟨.text, color, cells ++ text.map (⟨·, color⟩)⟩ := by
  induction text generalizing cells with
  | nil =>
    rw [List.map_nil, List.append_nil]
    rfl
  | cons c rest ih =>
    obtain ⟨hc, hrest⟩ := not_or.1 (mt List.mem_cons.2 hplain)
    have hfeed : (Terminal.mk .text color cells).feed c = ⟨.text, color, cells ++ [⟨c, color⟩]⟩ :=
      if_neg (Ne.symm hc)
    rw [read, List.foldl_cons, hfeed]
    refine (ih hrest _).trans ?_
    rw [List.append_assoc]
    rfl

/-- Digits are gathered. -/
theorem read_digits (color : Option Nat) (cells : List Cell) {digits : List Char}
    (hdigits : ∀ c ∈ digits, c.isDigit = true) (code : List Char) :
    (Terminal.mk (.sequence code) color cells).read digits =
      ⟨.sequence (code ++ digits), color, cells⟩ := by
  induction digits generalizing code with
  | nil =>
    rw [List.append_nil]
    rfl
  | cons c rest ih =>
    obtain ⟨hc, hrest⟩ := List.forall_mem_cons.1 hdigits
    have hfeed : (Terminal.mk (.sequence code) color cells).feed c =
        ⟨.sequence (code ++ [c]), color, cells⟩ := by
      rw [feed, hc]
      rfl
    rw [read, List.foldl_cons, hfeed]
    refine (ih hrest _).trans ?_
    rw [List.append_assoc]
    rfl

theorem toList_colorSequence (number : Nat) :
    (colorSequence number).toList = '\x1b' :: '[' :: (Text.writeNatural number ++ ['m']) := by
  simp [colorSequence, Text.natural]

/-- A colour sequence selects its colour, and nothing appears. -/
theorem read_colorSequence (color : Option Nat) (cells : List Cell) (number : Nat) :
    (Terminal.mk .text color cells).read (colorSequence number).toList =
      ⟨.text, selectColor color (Text.writeNatural number), cells⟩ := by
  have hdigits := read_digits color cells (fun c => @Text.isDigit_of_mem_writeNatural number c) []
  rw [toList_colorSequence]
  -- The first two characters lead into the sequence; what follows are its digits and its last
  -- letter.
  show (Terminal.mk (.sequence []) color cells).read (Text.writeNatural number ++ ['m']) = _
  rw [read_append, hdigits]
  rfl

/-- The sequence for a number of the palette turns that colour on, whatever was on before. -/
theorem selectColor_writeNatural {number : Nat} (hpalette : 31 ≤ number ∧ number ≤ 37)
    (color : Option Nat) : selectColor color (Text.writeNatural number) = some number := by
  rw [selectColor, Text.readNatural?_writeNatural]
  split
  next hzero => cases hzero; omega
  next other _ hsome =>
    cases hsome
    exact if_pos hpalette
  next hnone => cases hnone

theorem selectColor_zero (color : Option Nat) : selectColor color (Text.writeNatural 0) = none := by
  rw [selectColor, Text.readNatural?_writeNatural]
  rfl

end Terminal

/-- What is on a screen that was empty before this was written. -/
def screen (written : List Char) : List Cell := (Terminal.read {} written).cells

theorem screen_of_shows {written : List Char} {added : List Cell}
    (h : Terminal.Shows written added) : screen written = added :=
  congrArg Terminal.cells (h [])

/-! ## Painted text

  A known colour has a number of the palette, and is turned on before the text and off behind it. -/

/-- Every colour that is known has its number in the palette. -/
theorem palette_of_colorNumber? {color : String} {number : Nat}
    (h : colorNumber? color = some number) : 31 ≤ number ∧ number ≤ 37 := by
  rw [colorNumber?, List.lookup_eq_some_iff] at h
  obtain ⟨before, after, hlist, -⟩ := h
  have hnumber : (color, number) ∈ before ++ (color, number) :: after :=
    List.mem_append_right _ List.mem_cons_self
  rw [← hlist] at hnumber
  have hall : ∀ entry ∈ [("red", 31), ("green", 32), ("yellow", 33), ("blue", 34), ("purple", 35),
      ("cyan", 36), ("white", 37)], 31 ≤ entry.2 ∧ entry.2 ≤ 37 := by decide
  exact hall _ hnumber

/-- Text in a colour appears in it, and text without a known one in none. -/
theorem shows_colorize {text : String} (hplain : '\x1b' ∉ text.toList) (color : Option String) :
    Terminal.Shows (colorize text color).toList
      (text.toList.map (⟨·, color.bind colorNumber?⟩)) := by
  intro cells
  rw [colorize]
  split
  next hunknown =>
    rw [hunknown]
    exact Terminal.read_text none hplain cells
  next number hknown =>
    have hpalette : 31 ≤ number ∧ number ≤ 37 := by
      obtain ⟨name, -, hname⟩ := Option.bind_eq_some_iff.1 hknown
      exact palette_of_colorNumber? hname
    split
    next hempty =>
      rw [String.isEmpty_iff.1 hempty, hknown]
      exact Terminal.Shows.nil cells
    next =>
      rw [String.toList_append, String.toList_append, Terminal.read_append, Terminal.read_append,
        Terminal.read_colorSequence, Terminal.selectColor_writeNatural hpalette,
        Terminal.read_text _ hplain, Terminal.read_colorSequence, Terminal.selectColor_zero, hknown]

/-! ## What a console does

  To show something, a console writes texts, flushes and pauses.  Only the texts get to the screen,
  and only the pauses tell the modes apart for the reader who watches; so these two are taken out of
  what it does, each in its order. -/

/-- The text that is written, and nothing of the rest. -/
def stream (acts : List ConsoleAct) : List Char :=
  acts.flatMap fun
    | .write text => text.toList
    | .flush | .pause _ => []

/-- The pauses, in their order. -/
def pauses (acts : List ConsoleAct) : List Pause :=
  acts.filterMap fun
    | .pause pause => some pause
    | .write _ | .flush => none

theorem stream_append (acts others : List ConsoleAct) :
    stream (acts ++ others) = stream acts ++ stream others := List.flatMap_append

theorem stream_flatMap {α : Type} (items : List α) (f : α → List ConsoleAct) :
    stream (items.flatMap f) = items.flatMap fun item => stream (f item) := List.flatMap_assoc

theorem pauses_append (acts others : List ConsoleAct) :
    pauses (acts ++ others) = pauses acts ++ pauses others := List.filterMap_append

namespace Shown

/-- It holds no character that begins a sequence. -/
def IsPlain : Shown → Prop
  | text content _ => '\x1b' ∉ content.toList
  | lineEnd => True

instance : DecidablePred IsPlain
  | text content _ => inferInstanceAs (Decidable ('\x1b' ∉ content.toList))
  | lineEnd => inferInstanceAs (Decidable True)

/-- The pauses a typewriter makes for it. -/
def pauses : Shown → List Pause
  | text content _ => List.replicate content.toList.length .character
  | lineEnd => [.line]

end Shown

namespace Console

/-- What a console does that is handed these one after the other, and the console afterwards. -/
def displayAll (console : Console) : List Shown → Console × List ConsoleAct
  | [] => (console, [])
  | event :: rest =>
    let (next, acts) := console.display event
    let (last, others) := next.displayAll rest
    (last, acts ++ others)

/-- The console after a run of text. -/
def afterText (console : Console) (text : String) (color : Option String) : Console :=
  { console with
    atLineStart := false
    lineColor := if console.opensPrompt text color then some promptColor else console.lineColor }

/-- The number of the colour a text is painted in. -/
def colorNumberOf (console : Console) (color : Option String) : Option Nat :=
  if console.useColor then color.bind colorNumber? else none

/-- The cells a console means to show: the empty line before a prompt, and each character of a run
    in the colour of the run or of the line. -/
def cellsOf (console : Console) : Shown → List Cell
  | .text content color =>
    let next := console.afterText content color
    let number := next.colorNumberOf (next.effectiveColor color)
    (if console.opensPrompt content color then [⟨'\n', none⟩] else []) ++
      content.toList.map (⟨·, number⟩)
  | .lineEnd => [⟨'\n', none⟩]

/-- The cells a console means to show of all it is handed. -/
def picture (console : Console) : List Shown → List Cell
  | [] => []
  | event :: rest => console.cellsOf event ++ (console.display event).1.picture rest

/-- Writes a run of text in a colour, in the way of the mode. -/
def writeOut (console : Console) (text : String) (color : Option String) : List ConsoleAct :=
  match console.mode with
  | .instant => [.write (console.paint text color), .flush]
  | .typewriter => console.typeOut text color

variable (console : Console)

/-- A run of text is an empty line in front, if it opens a prompt, and then the text itself in the
    colour that the line has by then. -/
theorem render_eq (text : String) (color : Option String) :
    let next := console.afterText text color
    console.render text color =
      (next, (if console.opensPrompt text color then [.write "\n"] else []) ++
        next.writeOut text (next.effectiveColor color)) := by
  intro next
  have hacts : (console.render text color).2 =
      if console.opensPrompt text color then
        .write "\n" :: next.writeOut text (next.effectiveColor color)
      else next.writeOut text (next.effectiveColor color) := rfl
  refine Prod.ext rfl (hacts.trans ?_)
  cases console.opensPrompt text color <;> rfl

/-! ## One call

  The text of a run is written at once or a character at a time.  Both ways are put together from
  `shows_paint`, since a single character is painted like any other text. -/

/-- Painted text appears in its colour, or in none if the console has no colours. -/
theorem shows_paint {text : String} (hplain : '\x1b' ∉ text.toList) (color : Option String) :
    Terminal.Shows (console.paint text color).toList
      (text.toList.map (⟨·, console.colorNumberOf color⟩)) := by
  rw [paint, colorNumberOf]
  cases console.useColor with
  | true => exact shows_colorize hplain color
  | false => exact Terminal.read_text none hplain

/-- Typing a text writes each of its characters painted by itself. -/
theorem stream_typeOut (text : String) (color : Option String) :
    stream (console.typeOut text color) =
      text.toList.flatMap fun c => (console.paint (String.ofList [c]) color).toList := by
  rw [typeOut, stream_flatMap]
  simp [stream]

/-- A character at a time comes to the same as the whole text. -/
theorem shows_typeOut {text : String} (hplain : '\x1b' ∉ text.toList) (color : Option String) :
    Terminal.Shows (stream (console.typeOut text color))
      (text.toList.map (⟨·, console.colorNumberOf color⟩)) := by
  rw [stream_typeOut]
  generalize text.toList = content at hplain ⊢
  induction content with
  | nil => exact .nil
  | cons c rest ih =>
    obtain ⟨hc, hrest⟩ := not_or.1 (mt List.mem_cons.2 hplain)
    have hone : '\x1b' ∉ (String.ofList [c]).toList := by
      rw [String.toList_ofList]
      exact mt List.mem_singleton.1 hc
    have hfirst := console.shows_paint hone color
    rw [String.toList_ofList] at hfirst
    exact hfirst.append (ih hrest)

theorem stream_write (text : String) : stream [.write text, .flush] = text.toList :=
  List.append_nil _

/-- **In both modes the text of a run appears the same.** -/
theorem shows_writeOut {text : String} (hplain : '\x1b' ∉ text.toList) (color : Option String) :
    Terminal.Shows (stream (console.writeOut text color))
      (text.toList.map (⟨·, console.colorNumberOf color⟩)) := by
  rw [writeOut]
  split
  next =>
    rw [stream_write]
    exact console.shows_paint hplain color
  next => exact console.shows_typeOut hplain color

/-- Without colours a run is written as it is. -/
theorem stream_writeOut_of_uncolored (h : console.useColor = false) (text : String)
    (color : Option String) : stream (console.writeOut text color) = text.toList := by
  have hpaint : ∀ text, console.paint text color = text := fun text => by
    rw [paint, h]
    rfl
  rw [writeOut]
  split
  next => rw [stream_write, hpaint]
  next =>
    rw [stream_typeOut]
    simp [hpaint]

/-- Typing pauses after each character, and writing at once never does. -/
theorem pauses_writeOut (text : String) (color : Option String) :
    pauses (console.writeOut text color) =
      match console.mode with
      | .instant => []
      | .typewriter => List.replicate text.toList.length .character := by
  rw [writeOut]
  split
  next => rfl
  next =>
    rw [typeOut]
    -- Each character is written, flushed and paused after.
    induction text.toList with
    | nil => rfl
    | cons c rest ih => exact congrArg (Pause.character :: ·) ih

/-- The end of a line appears in no colour. -/
theorem shows_newline : Terminal.Shows ['\n'] [⟨'\n', none⟩] :=
  Terminal.read_text none (by decide)

theorem stream_endLine : stream console.endLine.2 = ['\n'] := by
  rw [endLine]
  cases console.mode <;> rfl

/-- **One call**: what it writes makes the cells it means to show. -/
theorem shows_display {event : Shown} (hplain : event.IsPlain) :
    Terminal.Shows (stream (console.display event).2) (console.cellsOf event) := by
  cases event with
  | text content color =>
    rw [display, render_eq, stream_append, cellsOf]
    refine .append ?_ (shows_writeOut _ hplain _)
    split
    next => exact shows_newline
    next => exact .nil
  | lineEnd =>
    rw [display, stream_endLine]
    exact shows_newline

/-- Without colours, what is written is what is to be shown, whatever the text holds. -/
theorem stream_display_of_uncolored (h : console.useColor = false) (event : Shown) :
    stream (console.display event).2 = (console.cellsOf event).map Cell.char := by
  cases event with
  | text content color =>
    have hnext : (console.afterText content color).useColor = false := h
    rw [display, render_eq, stream_append, stream_writeOut_of_uncolored _ hnext, cellsOf,
      List.map_append]
    congr 1
    · cases console.opensPrompt content color <;> rfl
    · rw [List.map_map]
      exact (List.map_id content.toList).symm
  | lineEnd =>
    rw [display, stream_endLine]
    rfl

theorem useColor_display (event : Shown) :
    (console.display event).1.useColor = console.useColor := by
  cases event <;> rfl

theorem mode_display (event : Shown) : (console.display event).1.mode = console.mode := by
  cases event <;> rfl

/-- A typewriter pauses as often as there are characters, and once at the end of a line. -/
theorem pauses_display (event : Shown) :
    pauses (console.display event).2 =
      match console.mode with
      | .instant => []
      | .typewriter => event.pauses := by
  cases event with
  | text content color =>
    have hprompt :
        pauses (if console.opensPrompt content color then [.write "\n"] else []) = [] := by
      split <;> rfl
    rw [display, render_eq, pauses_append, hprompt, List.nil_append, pauses_writeOut]
    rfl
  | lineEnd =>
    rw [display, endLine]
    cases console.mode <;> rfl

/-- The mode has no part in what is to be shown, nor in how the line goes on. -/
theorem display_mode (mode : TextMode) (event : Shown) :
    ({ console with mode }.display event).1 = { (console.display event).1 with mode } := by
  cases event <;> rfl

/-! ## All calls

  Every lemma about one call becomes one about a row of calls, by induction on the row.  The console
  goes from each call to the next as `display` left it, so the induction is for every console. -/

variable (events : List Shown)

/-- What a console means to show does not depend on its mode. -/
theorem picture_mode (mode : TextMode) :
    { console with mode }.picture events = console.picture events := by
  induction events generalizing console with
  | nil => rfl
  | cons event rest ih =>
    have hcells : { console with mode }.cellsOf event = console.cellsOf event := by
      cases event <;> rfl
    rw [picture, picture, display_mode, ih, hcells]

theorem displayAll_cons (event : Shown) (rest : List Shown) :
    (console.displayAll (event :: rest)).2 =
      (console.display event).2 ++ ((console.display event).1.displayAll rest).2 := rfl

/-- **What is written for any number of events makes the picture of the console.** -/
theorem shows_displayAll (hplain : ∀ event ∈ events, event.IsPlain) :
    Terminal.Shows (stream (console.displayAll events).2) (console.picture events) := by
  induction events generalizing console with
  | nil => exact .nil
  | cons event rest ih =>
    obtain ⟨hevent, hrest⟩ := List.forall_mem_cons.1 hplain
    rw [displayAll_cons, stream_append, picture]
    exact (console.shows_display hevent).append (ih _ hrest)

/-- Without colours the characters of the picture are what is written. -/
theorem stream_displayAll_of_uncolored (h : console.useColor = false) :
    stream (console.displayAll events).2 = (console.picture events).map Cell.char := by
  induction events generalizing console with
  | nil => rfl
  | cons event rest ih =>
    rw [displayAll_cons, stream_append, picture, List.map_append,
      console.stream_display_of_uncolored h, ih _ ((console.useColor_display event).trans h)]

/-- The pauses for any number of events. -/
theorem pauses_displayAll :
    pauses (console.displayAll events).2 =
      match console.mode with
      | .instant => []
      | .typewriter => events.flatMap Shown.pauses := by
  induction events generalizing console with
  | nil => cases console.mode <;> rfl
  | cons event rest ih =>
    rw [displayAll_cons, pauses_append, pauses_display, ih, mode_display]
    cases console.mode <;> rfl

end Console

/-- **Both modes show the same screen.** A console that types and one that writes at once, alike in
    all else, are handed the same runs and ends of lines. Where no run holds a character that
    begins a sequence, a terminal shows the same characters in the same colours, the ones the
    console means to show. Without colours both write the same text, whatever the runs hold. The
    one pauses after each character and each line, the other never. -/
theorem sameScreen_of_modes (console : Console) (events : List Shown) :
    let typed := ({ console with mode := .typewriter }.displayAll events).2
    let whole := ({ console with mode := .instant }.displayAll events).2
    ((∀ event ∈ events, event.IsPlain) →
      screen (stream typed) = screen (stream whole) ∧
        screen (stream whole) = console.picture events) ∧
    (console.useColor = false → stream typed = stream whole) ∧
    pauses typed = events.flatMap Shown.pauses ∧ pauses whole = [] := by
  refine ⟨fun hplain => ?_, fun huncolored => ?_, ?_, ?_⟩
  -- Both modes make the picture of the console, and that has no mode.
  · have hscreen : ∀ mode, screen (stream ({ console with mode }.displayAll events).2) =
        console.picture events := fun mode => by
      rw [screen_of_shows (Console.shows_displayAll _ _ hplain), Console.picture_mode]
    exact ⟨(hscreen .typewriter).trans (hscreen .instant).symm, hscreen .instant⟩
  · have hstream : ∀ mode, stream ({ console with mode }.displayAll events).2 =
        (console.picture events).map Cell.char := fun mode => by
      have hmode : { console with mode }.useColor = false := huncolored
      rw [Console.stream_displayAll_of_uncolored _ _ hmode, Console.picture_mode]
    exact (hstream .typewriter).trans (hstream .instant).symm
  · rw [Console.pauses_displayAll]
  · rw [Console.pauses_displayAll]

/-- A prompt with a run in a colour, one without text and one in a colour that is not known, and a
    line after it. -/
def lanternRuns : List Shown :=
  [.text "  Lift the " none, .text "lamp" (some "red"), .text "" (some "green"),
    .text "?" (some "mauve"), .text " Up." none, .lineEnd, .text "Oil." none, .lineEnd]

/-- The lantern shows a prompt in its own colour with a word in red, a character in a colour that is
    not known, which has none, and a line that is no prompt. -/
theorem sameScreen_of_modes_lantern :
    let typed := ((Console.mk .typewriter true true none).displayAll lanternRuns).2
    let whole := ((Console.mk .instant true true none).displayAll lanternRuns).2
    (∀ event ∈ lanternRuns, event.IsPlain) ∧ stream typed ≠ stream whole ∧
      screen (stream typed) = screen (stream whole) ∧
      screen (stream whole) =
        ⟨'\n', none⟩ :: "  Lift the ".toList.map (⟨·, some 36⟩) ++
          "lamp".toList.map (⟨·, some 31⟩) ++ [⟨'?', none⟩] ++ " Up.".toList.map (⟨·, some 36⟩) ++
          "\nOil.\n".toList.map (⟨·, none⟩) ∧
      (pauses typed).length = 26 ∧ pauses whole = [] := by
  have hplain : ∀ event ∈ lanternRuns, event.IsPlain := by decide +kernel
  obtain ⟨hscreen, -, htyped, hwhole⟩ :=
    sameScreen_of_modes (Console.mk .instant true true none) lanternRuns
  refine ⟨hplain, by decide +kernel, (hscreen hplain).1, ?_, ?_, hwhole⟩
  · rw [(hscreen hplain).2]
    decide +kernel
  · rw [htyped]
    decide +kernel

end Gamebook
