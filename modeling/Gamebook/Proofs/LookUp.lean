/-
  What looking up a story can come to.

  Loading a text, loading a file and looking a story up on demand can each come to one of three
  things, and to nothing else (`Outcome.Finds`): the story was there, there is none, or a text was
  read and registered.  So what holds of the library and of the log after a look-up is proved of
  these three once, and not of each operation.

  From stories that were read from texts a look-up gives another one (`Library.IsParsed.finds`,
  `Library.IsParsed.resolve`), so whatever a text grants its story, the stories that are found have.

  A destination is looked up in three layers, from a destination to a file and a block, from there
  to the story of the file, and in it to the block.  Each has one lemma here
  (`exists_find_of_resolve`, `exists_get_of_find`, `finds_get`), and whoever needs to know what a
  look-up did goes down by them.
-/
import Gamebook.Proofs.ParsedLibrary

namespace Gamebook

open Markup

/-- What looking for the story of an id comes to. -/
inductive Outcome.Finds {ε : Type} (library : Library) (fileId : String) : Outcome ε Story → Prop
  | present {story : Story} (hstory : library.stories.get? fileId = some story) :
      Finds library fileId { result := .ok story, library }
  | absent (error : ε) : Finds library fileId { result := .error error, library }
  | loaded {text : String} {story : Story}
      (hread : readStory library.grammar fileId text = .ok story) :
      Finds library fileId
        { result := .ok story
          library := library.register fileId story
          log := [library.registration fileId story, .parsed story.blocks.length fileId] }

/-- Wording the error in another way changes nothing of what was done. -/
theorem Outcome.Finds.mapError {ε η : Type} {library : Library} {fileId : String}
    {outcome : Outcome ε Story} (h : outcome.Finds library fileId) (f : ε → η) :
    Outcome.Finds library fileId { outcome with result := outcome.result.mapError f } := by
  cases h with
  | present hstory => exact .present hstory
  | absent error => exact .absent (f error)
  | loaded hread => exact .loaded hread

namespace Library

variable {library : Library} {fileId : String}

/-- A text that cannot be read leaves the library alone; any other is registered. -/
theorem finds_load (library : Library) (fileId text : String) :
    (library.load fileId text).Finds library fileId := by
  rw [load]
  split
  next error _ => exact .absent error
  next story hread => exact .loaded hread

/-- A file is read and its text loaded, if there is a file. A fault comes before anything is done.
    -/
theorem finds_loadFile {outcome : Outcome LoadError Story}
    (hload : library.loadFile fileId = .ok outcome) : outcome.Finds library fileId := by
  simp only [loadFile] at hload
  split at hload
  next => cases hload
  next =>
    split at hload
    next => cases hload; exact .absent _
    next text _ => cases hload; exact (finds_load library fileId text).mapError LoadError.parse

/-- A story that is there is not loaded again, and one that is not is loaded if it may be. -/
theorem finds_get {outcome : Outcome ResolutionError Story}
    (hget : library.get fileId = .ok outcome) : outcome.Finds library fileId := by
  rw [get] at hget
  split at hget
  next story hstory => cases hget; exact .present hstory
  next =>
    split at hget
    next =>
      rw [bind_eq_ok_iff] at hget
      obtain ⟨loaded, hloaded, hget⟩ := hget
      cases hget
      exact (finds_loadFile hloaded).mapError _
    next => cases hget; exact .absent _

/-- A block is looked for in a story that is looked for first. -/
theorem exists_get_of_find {block : Option String} {outcome : Outcome ResolutionError Scene}
    (hfind : library.find fileId block = .ok outcome) :
    ∃ found : Outcome ResolutionError Story, found.Finds library fileId ∧
      outcome = { found with result := found.result.bind (blockOf · fileId block) } := by
  rw [find, bind_eq_ok_iff] at hfind
  obtain ⟨found, hget, hfind⟩ := hfind
  cases hfind
  exact ⟨found, finds_get hget, rfl⟩

/-- A destination is looked up by looking for a block of some file. -/
theorem exists_find_of_resolve {destination : Destination} {currentFile : String}
    {outcome : Outcome ResolutionError Scene}
    (hresolve : library.resolve destination currentFile = .ok outcome) :
    ∃ fileId block, library.find fileId block = .ok outcome := by
  cases destination with
  | block name => exact ⟨currentFile, some name, hresolve⟩
  | file id block => exact ⟨id, block, hresolve⟩
  | unknown form => cases hresolve

/-- Whatever looking for a story comes to, the stories in the library were read from texts, and so
    was the one that is found. -/
theorem IsParsed.finds (h : library.IsParsed) {ε : Type} {outcome : Outcome ε Story}
    (hfinds : outcome.Finds library fileId) :
    outcome.library.IsParsed ∧ ∀ story, outcome.result = .ok story →
      ∃ grammar id text, readStory grammar id text = .ok story := by
  cases hfinds with
  | present hstory =>
    refine ⟨h, fun story hfound => ?_⟩
    cases hfound
    exact h _ _ hstory
  | absent error => exact ⟨h, nofun⟩
  -- The story that was registered was read just now.
  | loaded hread =>
    refine ⟨h.register hread fileId, fun story hfound => ?_⟩
    cases hfound
    exact ⟨_, _, _, hread⟩

/-- A scene that is found is a block of a story that was read from a text. -/
theorem IsParsed.resolve (h : library.IsParsed) {destination : Destination} {currentFile : String}
    {outcome : Outcome ResolutionError Scene}
    (hresolve : library.resolve destination currentFile = .ok outcome) :
    outcome.library.IsParsed ∧ ∀ scene, outcome.result = .ok scene →
      ∃ grammar id text story, readStory grammar id text = .ok story ∧
        scene.block ∈ story.blocks := by
  obtain ⟨fileId, block, hfind⟩ := exists_find_of_resolve hresolve
  obtain ⟨found, hfinds, rfl⟩ := exists_get_of_find hfind
  obtain ⟨hparsed, hread⟩ := h.finds hfinds
  refine ⟨hparsed, fun scene hscene => ?_⟩
  obtain ⟨story, hstory, hblock⟩ := bind_eq_ok_iff.1 hscene
  obtain ⟨grammar, id, text, htext⟩ := hread story hstory
  exact ⟨grammar, id, text, story, htext, (blockOf_eq_ok hblock).2⟩

end Library
end Gamebook
