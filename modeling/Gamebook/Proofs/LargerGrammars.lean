/-
  A larger grammar changes no story.

  A grammar says which keywords and which colours are known, and nothing else that a reader does
  depends on it but what a comment begins with.  A word that is not known is refused and never taken
  for text.  So of two grammars of which one knows all that the other knows, both read a file alike,
  unless the smaller one comes upon a word that is new to it.

  * `Grammar.IsWithin`: the larger grammar knows the words of the smaller one, and has its comments.
  * `Widens`: what a reader comes to with the larger grammar is what it comes to with the smaller
    one, if this is not that a word is unknown.  Each reader keeps to it, by way of `Widens.bind`.
  * `readStory_of_isWithin`: so an accepted text stays the story that it is, and a refused one is
    refused with the same error unless it has such a word.

  There is one lemma for each reader, from the inside out.  A reader that looks a word up is
  compared by cases on whether the smaller grammar knows it; one that is made of other readers needs
  `Widens.bind` and nothing else.  What a draft makes of a statement does not depend on the grammar.
-/
import Gamebook.Markup.Document

namespace Gamebook.Markup

open Gamebook.Text

/-! ## Grammars -/

/-- The larger grammar knows every word that the smaller one knows, and has the same comments. -/
structure Grammar.IsWithin (small large : Grammar) : Prop where
  colors : ∀ color ∈ small.colors, color ∈ large.colors
  keywords : ∀ keyword ∈ small.keywords, keyword ∈ large.keywords
  comments : large.commentPrefix = small.commentPrefix

/-- The flaw is that the grammar does not know a word. -/
inductive IsUnknown (grammar : Grammar) : Flaw → Prop
  | keyword {keyword construct : String} {column : Nat} (h : keyword ∉ grammar.keywords) :
      IsUnknown grammar ⟨.unknownKeyword keyword, column, construct⟩
  | color {color construct : String} {column : Nat} (h : color ∉ grammar.colors) :
      IsUnknown grammar ⟨.unknownColor color, column, construct⟩

variable {α β : Type} {small large : Grammar}

/-- What a reader comes to with the smaller grammar, and with the larger one: the same, unless the
    smaller one does not know a word. -/
inductive Widens (small : Grammar) : Except Flaw α → Except Flaw α → Prop
  | same (result : Except Flaw α) : Widens small result result
  | unknown {flaw : Flaw} (h : IsUnknown small flaw) (other : Except Flaw α) :
      Widens small (.error flaw) other

/-- Reading one thing after another: the first word that is unknown decides. -/
theorem Widens.bind {result other : Except Flaw α} {next following : α → Except Flaw β}
    (h : Widens small result other) (hnext : ∀ value, Widens small (next value) (following value)) :
    Widens small (result >>= next) (other >>= following) := by
  cases h with
  | unknown hunknown => exact .unknown hunknown _
  | same =>
    cases result with
    | error flaw => exact .same _
    | ok value => exact hnext value

/-- What is made of a value afterwards makes no difference. -/
theorem Widens.map {result other : Except Flaw α} (h : Widens small result other) (g : α → β) :
    Widens small (result.map g) (other.map g) := by
  cases h with
  | unknown hunknown => exact .unknown hunknown _
  | same => exact .same _

/-! ## Lines

  Colours stand in narrative lines and keywords in directive lines, so a line has unknown words of
  one sort only. -/

/-- The spans of a line are the same, if their colours are known. -/
theorem spanRuns_widens (h : small.IsWithin large) (opened : Option Marker)
    (texts : List (List Char × Marker)) (tail : List Char) :
    Widens small (spanRuns small opened texts tail) (spanRuns large opened texts tail) := by
  induction texts generalizing opened with
  | nil => cases opened <;> exact .same _
  | cons first rest ih =>
    obtain ⟨text, marker⟩ := first
    -- The marker in front decides: a colour that is not known is refused before anything else is
    -- looked at.
    by_cases hknown : String.ofList marker.tag ∈ small.colors
    · have hlarge := List.contains_iff_mem.2 (h.colors _ hknown)
      rw [spanRuns.eq_def small, spanRuns.eq_def large]
      simp only [List.contains_iff_mem.2 hknown, hlarge, Bool.not_true, Bool.false_eq_true,
        if_false]
      cases opened with
      | none =>
        cases marker.closing with
        | true => exact .same _
        | false => exact (ih (some marker)).map _
      | some opener =>
        cases marker.closing with
        | false => exact .same _
        | true =>
          dsimp only
          split
          next => exact (ih none).map _
          next => exact .same _
    · have hrefused : spanRuns small opened ((text, marker) :: rest) tail =
          .error (marker.flaw (.unknownColor (String.ofList marker.tag))) := by
        rw [spanRuns.eq_def]
        simp [hknown]
      rw [hrefused]
      exact .unknown (.color hknown) _

theorem readNarrative_widens (h : small.IsWithin large) (line : List Char) :
    Widens small (readNarrative small line) (readNarrative large line) := by
  rw [readNarrative, readNarrative]
  exact (spanRuns_widens h none _ _).map _

/-- The keyword of a directive is the same, if it is known. -/
theorem keyword?_widens (h : small.IsWithin large) (directive : Directive) :
    Widens small (directive.keyword? small) (directive.keyword? large) := by
  rw [Directive.keyword?, Directive.keyword?]
  by_cases hknown : String.ofList directive.keyword ∈ small.keywords
  · rw [if_pos (List.contains_iff_mem.2 hknown),
      if_pos (List.contains_iff_mem.2 (h.keywords _ hknown))]
    exact .same _
  · rw [if_neg fun hmem => hknown (List.contains_iff_mem.1 hmem)]
    exact .unknown (.keyword hknown) _

/-- Inside a block a line is a directive or narrative, and this does not depend on the grammar. -/
theorem statement_read_widens (h : small.IsWithin large) (line : List Char) :
    Widens small (Statement.read small line) (Statement.read large line) := by
  rw [Statement.read, Statement.read]
  cases Directive.ofLine? line with
  | none => exact (readNarrative_widens h line).map _
  | some directive => exact (keyword?_widens h directive).bind fun keyword => .same _

/-- Outside of a block lines may be idle, and the grammars take the same lines for comments. -/
theorem heading_read_widens (h : small.IsWithin large) (line : List Char) :
    Widens small (Heading.read small line) (Heading.read large line) := by
  have hidle : isIdle large line = isIdle small line := by rw [isIdle, isIdle, h.comments]
  rw [Heading.read, Heading.read, hidle]
  split
  next => exact .same _
  next =>
    cases Directive.ofLine? line with
    | none => exact .same _
    | some directive => exact (keyword?_widens h directive).bind fun keyword => .same _

/-- A line takes a draft to the same draft with the larger grammar, if its words are known. -/
theorem takeLine_widens (h : small.IsWithin large) (draft : Draft) (number : Nat)
    (line : List Char) :
    Widens small (draft.takeLine small number line) (draft.takeLine large number line) := by
  rw [Draft.takeLine, Draft.takeLine]
  cases draft.current with
  | none => exact (heading_read_widens h line).bind fun heading => .same _
  | some block => exact (statement_read_widens h line).bind fun statement => .same _

/-! ## Files

  By induction on the lines.  Up to the first unknown word both readers have the same draft, and at
  that word the smaller grammar stops. -/

/-- The first line that makes a difference has a word that the smaller grammar does not know. -/
theorem takeLines_of_isWithin (h : small.IsWithin large) (draft : Draft) (first : Nat)
    (lines : List (List Char)) :
    draft.takeLines large first lines = draft.takeLines small first lines ∨
      ∃ number flaw, draft.takeLines small first lines = .error (number, flaw) ∧
        IsUnknown small flaw := by
  induction lines generalizing draft first with
  | nil => exact .inl rfl
  | cons line rest ih =>
    have hstep := takeLine_widens h draft first line
    rw [Draft.takeLines, Draft.takeLines]
    generalize draft.takeLine small first line = result at hstep ⊢
    generalize draft.takeLine large first line = other at hstep ⊢
    cases hstep with
    | unknown hunknown => exact .inr ⟨first, _, rfl, hunknown⟩
    | same =>
      cases result with
      | error flaw => exact .inl rfl
      | ok next => exact ih next (first + 1)

/-- **A larger grammar changes no story.** Let a grammar know all the colours and all the keywords
    that another one knows, and have the same comments. Then every text that the smaller one accepts
    is the same story with the larger one; and every text that it refuses is refused with the same
    error, unless this is that it does not know a keyword or a colour. -/
theorem readStory_of_isWithin (h : small.IsWithin large) (fileId text : String) :
    (∀ story, readStory small fileId text = .ok story →
      readStory large fileId text = .ok story) ∧
    ∀ error, readStory small fileId text = .error error →
      readStory large fileId text = .error error ∨ IsUnknown small error.flaw := by
  rcases takeLines_of_isWithin h {} 1 (linesOf text.toList) with
    hsame | ⟨number, flaw, hflaw, hunknown⟩
  · have hread : readStory large fileId text = readStory small fileId text := by
      rw [readStory, readStory, readLines, readLines, hsame]
    rw [hread]
    exact ⟨fun _ => id, fun _ => .inl⟩
  · have hread : readStory small fileId text = .error ⟨fileId, number, flaw⟩ := by
      rw [readStory, readLines, hflaw]
      rfl
    rw [hread]
    refine ⟨nofun, fun error herror => .inr ?_⟩
    cases herror
    exact hunknown

/-- A grammar without the state directives, and with two colours. -/
def plainGrammar : Grammar :=
  { colors := ["red", "cyan"]
    keywords := ["entry", "block", "end", "if", "else", "endif", "option", "jump"] }

/-- A gallery of which one word is in a colour. -/
def galleryText : String :=
  "@block gallery\nA \x7bred\x7dhot\x7b/red\x7d lamp.\n@option Look -> gallery if flag:lit\n@end\n"

/-- A gallery in which the lamp is lit. -/
def litGalleryText : String := "@block gallery\n@set flag:lit\n@end\n"

/-- The plain grammar accepts the gallery, which is the same story with the usual grammar. It
    refuses the one in which the lamp is lit, because it does not know `@set`. -/
theorem readStory_of_isWithin_gallery :
    plainGrammar.IsWithin {} ∧
    (∃ story, readStory plainGrammar "cave" galleryText = .ok story ∧
      readStory {} "cave" galleryText = .ok story) ∧
    ∃ error, readStory plainGrammar "cave" litGalleryText = .error error ∧
      IsUnknown plainGrammar error.flaw := by
  have hwithin : plainGrammar.IsWithin {} := ⟨by decide, by decide, rfl⟩
  have hgallery := readStory_of_isWithin hwithin "cave" galleryText
  have hlit := readStory_of_isWithin hwithin "cave" litGalleryText
  have haccepted : (readStory plainGrammar "cave" galleryText).isOk = true ∧
      (readStory plainGrammar "cave" litGalleryText).isOk = false ∧
      (readStory {} "cave" litGalleryText).isOk = true := by decide +kernel
  refine ⟨hwithin, ?_, ?_⟩
  · cases hread : readStory plainGrammar "cave" galleryText with
    | ok story => exact ⟨story, rfl, hgallery.1 story hread⟩
    | error error =>
      rw [hread] at haccepted
      cases haccepted.1
  · cases hread : readStory plainGrammar "cave" litGalleryText with
    | ok story =>
      rw [hread] at haccepted
      cases haccepted.2.1
    | error error =>
      refine ⟨error, rfl, (hlit.2 error hread).resolve_left fun hlarge => ?_⟩
      rw [hlarge] at haccepted
      cases haccepted.2.2

end Gamebook.Markup
