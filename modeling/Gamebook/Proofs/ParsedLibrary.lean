/-
  Libraries whose stories were all read from texts.

  Loading keeps a library so, whether it is asked for, happens on demand, or fails: a text becomes
  a story or an error, and what a file holds does not matter.  Looking something up in such a
  library has a fault only for a path that no folder or file can have, one that holds the character
  NUL.  The destinations of a story have no such path (`isNulFree_of_isNamed`), so within a story
  every look-up ends in a block or in an error that tells why there is none (`exists_resolve`).

  There are two halves, which do not depend on each other.  The `keeps_` lemmas say what holds of
  the outcome of a look-up if there is one; the `exists_` lemmas say that there is one.  Only the
  second half needs the ids to be free of NUL, and of the library only that its folder is.
-/
import Gamebook.Library
import Gamebook.Proofs.ReadNodes

namespace Gamebook

open Markup

/-! ## Texts without NUL

  A path is a row of names, cut out of a text at the slashes.  It holds NUL only if the text does,
  and neither do the ids that stories name, because file names consist of letters, digits and a few
  other characters. -/

/-- The text does not hold the character that no path can hold. -/
def IsNulFree (text : String) : Prop := '\x00' ∉ text.toList

instance (text : String) : Decidable (IsNulFree text) := inferInstanceAs (Decidable (_ ∉ _))

/-- The pieces of a text hold no other characters than the text. -/
theorem Text.mem_of_mem_splitWhere {cut : Char → Bool} {text piece : List Char} {c : Char}
    (hpiece : piece ∈ splitWhere cut text) (hc : c ∈ piece) : c ∈ text := by
  -- Induction on the text, for the piece that is being filled and the pieces that are finished at
  -- once: the next character goes to the former or ends it.
  have hparts : ∀ text : List Char, ∀ piece ∈ (text.foldr (splitWhere.step cut) ([], [])).1 ::
      (text.foldr (splitWhere.step cut) ([], [])).2, c ∈ piece → c ∈ text := by
    intro text
    induction text with
    | nil =>
      intro piece hpiece hc
      rw [List.mem_singleton.1 hpiece] at hc
      exact hc
    | cons first rest ih =>
      intro piece hpiece hc
      rw [List.foldr_cons, splitWhere.step] at hpiece
      split at hpiece
      next =>
        rcases List.mem_cons.1 hpiece with rfl | hpiece
        · cases hc
        · exact List.mem_cons_of_mem _ (ih piece hpiece hc)
      next =>
        rcases List.mem_cons.1 hpiece with rfl | hpiece
        · rcases List.mem_cons.1 hc with rfl | hc
          · exact List.mem_cons_self
          · exact List.mem_cons_of_mem _ (ih _ List.mem_cons_self hc)
        · exact List.mem_cons_of_mem _ (ih piece (List.mem_cons_of_mem _ hpiece) hc)
  exact hparts text piece hpiece hc

/-- A path that is written without NUL has none in any of its names. -/
theorem Path.hasNul_ofString {text : String} (h : IsNulFree text) :
    (Path.ofString text).hasNul = false := by
  refine List.any_eq_false.2 fun name hname hnul => h ?_
  obtain ⟨piece, hpiece, rfl⟩ := List.mem_map.1 (List.mem_filter.1 hname).1
  rw [String.toList_ofList, List.contains_iff_mem] at hnul
  exact Text.mem_of_mem_splitWhere hpiece hnul

/-- Nor has a path that is put together from two such paths. -/
theorem Path.hasNul_join {base next : Path} (hbase : base.hasNul = false)
    (hnext : next.hasNul = false) : (base.join next).hasNul = false := by
  rw [Path.join]
  split
  next =>
    rw [Path.hasNul, List.any_append, Bool.or_eq_false_iff]
    exact ⟨hbase, hnext⟩
  next => exact hnext

/-- The destination can be looked up: it has a form that is known, and its file can have a path. -/
def Destination.IsNulFree : Destination → Prop
  | block _ => True
  | file id _ => Gamebook.IsNulFree id
  | unknown _ => False

/-- No character of a file name is NUL. -/
theorem Destination.isNulFree_of_isNamed {destination : Destination} (h : destination.IsNamed) :
    destination.IsNulFree := by
  cases destination with
  | block name => trivial
  | unknown form => exact h
  | file id target =>
    have hfile := h.1
    show '\x00' ∉ id.toList
    cases htext : id.toList with
    | nil => exact List.not_mem_nil
    | cons c rest =>
      rw [htext, isFileName, Bool.and_eq_true] at hfile
      intro hnul
      rcases List.mem_cons.1 hnul with rfl | hnul
      · exact absurd hfile.1 (by decide)
      · exact absurd (List.all_eq_true.1 hfile.2 _ hnul) (by decide)

/-! ## Libraries

  That a story was read says everything about its nodes at any depth (`isRead_of_readStory`), so
  this is all that a library has to remember of its stories. -/

namespace Library

/-- Every story that is loaded was read from some text. -/
def IsParsed (library : Library) : Prop :=
  ∀ fileId story, library.stories.get? fileId = some story →
    ∃ grammar id text, readStory grammar id text = .ok story

/-- If the library loads stories on demand, it has a folder to load them from: no folder has a path
    with NUL in it. -/
def HasFolder (library : Library) : Prop :=
  library.onDemand = true → library.base.hasNul = false

/-- The library has stories that were read, and finds others in a folder, if at all. -/
structure IsSound (library : Library) : Prop where
  parsed : library.IsParsed
  folder : library.HasFolder

theorem IsSound.isRead {library : Library} (h : library.IsSound) {fileId : String} {story : Story}
    (hstory : library.stories.get? fileId = some story) : story.IsRead := by
  obtain ⟨grammar, id, text, hread⟩ := h.parsed fileId story hstory
  exact isRead_of_readStory hread

/-- A story that was read may be registered under any id, not only under the one it was read with.
    -/
theorem IsParsed.register {library : Library} (h : library.IsParsed) {grammar : Grammar}
    {id text : String} {story : Story} (hread : readStory grammar id text = .ok story)
    (fileId : String) : (library.register fileId story).IsParsed := by
  intro other found hfound
  rw [Library.register, Table.get?_insert] at hfound
  split at hfound
  next =>
    cases hfound
    exact ⟨grammar, id, text, hread⟩
  next => exact h other found hfound

/-- Registering a story that was read leaves a library sound. -/
theorem IsSound.register {library : Library} (h : library.IsSound) {grammar : Grammar}
    {id text : String} {story : Story} (hread : readStory grammar id text = .ok story)
    (fileId : String) : (library.register fileId story).IsSound :=
  ⟨h.parsed.register hread fileId, h.folder⟩

/-- Writing to the disk leaves a library sound. -/
theorem IsSound.writeFile {library : Library} (h : library.IsSound) (location : Location)
    (content : Content) : (library.writeFile location content).IsSound := ⟨h.parsed, h.folder⟩

end Library

/-- What came out leaves the library sound, and a value that was found has this property. -/
structure Outcome.Keeps {ε α : Type} (good : α → Prop) (outcome : Outcome ε α) : Prop where
  library : outcome.library.IsSound
  good : ∀ value, outcome.result = .ok value → good value

/-- Giving an error another form does not touch what is kept. -/
theorem Outcome.Keeps.mapError {ε η α : Type} {good : α → Prop} {outcome : Outcome ε α}
    (h : outcome.Keeps good) (f : ε → η) :
    Outcome.Keeps good { outcome with result := outcome.result.mapError f } := by
  refine ⟨h.library, fun value hvalue => h.good value ?_⟩
  cases hresult : outcome.result with
  | error e => simp [hresult, Except.mapError] at hvalue
  | ok found => simpa [hresult, Except.mapError] using hvalue

/-- The block has nodes that come from lines, and its file can have a path. -/
def Scene.IsRead (scene : Scene) : Prop :=
  IsNulFree scene.fileId ∧ ∀ node ∈ scene.block.nodes, node.IsRead

namespace Library

variable {library : Library}

/-- Loading a text that is a story, or one that is none. -/
theorem keeps_load (h : library.IsSound) (fileId text : String) :
    (library.load fileId text).Keeps Story.IsRead := by
  rw [Library.load]
  split
  next => exact ⟨h, nofun⟩
  next story hread =>
    refine ⟨h.register hread fileId, fun value hvalue => ?_⟩
    cases hvalue
    exact isRead_of_readStory hread

/-- Loading a file, whatever it holds. -/
theorem keeps_loadFile (h : library.IsSound) {fileId : String} {outcome : Outcome LoadError Story}
    (hload : library.loadFile fileId = .ok outcome) : outcome.Keeps Story.IsRead := by
  simp only [Library.loadFile] at hload
  split at hload
  next => cases hload
  next =>
    split at hload
    next => cases hload; exact ⟨h, nofun⟩
    next text _ => cases hload; exact (keeps_load h fileId text).mapError LoadError.parse

/-- Asking for a story: it is loaded already, or is loaded now, or is not to be had. Only the second
    case can change the library. -/
theorem keeps_get (h : library.IsSound) {fileId : String}
    {outcome : Outcome ResolutionError Story} (hget : library.get fileId = .ok outcome) :
    outcome.Keeps Story.IsRead := by
  rw [Library.get] at hget
  split at hget
  next story hstory =>
    cases hget
    exact ⟨h, fun value hvalue => by cases hvalue; exact h.isRead hstory⟩
  next =>
    split at hget
    next =>
      obtain ⟨loaded, hloaded, hget⟩ := bind_eq_ok_iff.1 hget
      cases hget
      exact (keeps_loadFile h hloaded).mapError _
    next => cases hget; exact ⟨h, nofun⟩

/-- Where the path of an id is one, the file is read or there is an error. -/
theorem exists_loadFile (hbase : library.base.hasNul = false) {fileId : String}
    (hid : IsNulFree fileId) : ∃ outcome, library.loadFile fileId = .ok outcome := by
  have hpath : (library.pathOf fileId).hasNul = false :=
    Path.hasNul_join hbase (Path.hasNul_ofString hid)
  simp only [Library.loadFile, hpath]
  split
  next hnul => cases hnul
  next => split <;> exact ⟨_, rfl⟩

/-- Asking for a story whose id can have a path has no fault. One that is loaded needs no path, and
    a library that loads nothing on demand uses none. -/
theorem exists_get (h : library.IsSound) {fileId : String} (hid : IsNulFree fileId) :
    ∃ outcome, library.get fileId = .ok outcome := by
  rw [Library.get]
  split
  next => exact ⟨_, rfl⟩
  next =>
    split
    next hdemand =>
      obtain ⟨loaded, hloaded⟩ := exists_loadFile (h.folder hdemand) hid
      exact ⟨_, bind_eq_ok_iff.2 ⟨loaded, hloaded, rfl⟩⟩
    next => exact ⟨_, rfl⟩

/-- A scene of a story is one of its blocks, in the file that was asked for. -/
theorem blockOf_eq_ok {story : Story} {fileId : String} {block : Option String} {scene : Scene}
    (h : blockOf story fileId block = .ok scene) :
    scene.fileId = fileId ∧ scene.block ∈ story.blocks := by
  rw [blockOf] at h
  split at h
  next => cases h
  next =>
    split at h
    next found hfound => cases h; exact ⟨rfl, List.mem_of_find?_eq_some hfound⟩
    next => cases h

/-- So a block is found in a sound library, or there is an error, and a block that is found has
    nodes that come from lines. -/
theorem exists_find (h : library.IsSound) {fileId : String} (hid : IsNulFree fileId)
    (block : Option String) :
    ∃ outcome, library.find fileId block = .ok outcome ∧ outcome.Keeps Scene.IsRead := by
  obtain ⟨found, hget⟩ := exists_get h hid
  have hkeeps := keeps_get h hget
  refine ⟨_, bind_eq_ok_iff.2 ⟨found, hget, rfl⟩, hkeeps.library, fun scene hscene => ?_⟩
  obtain ⟨story, hstory, hblock⟩ := bind_eq_ok_iff.1 hscene
  obtain ⟨hfile, hmem⟩ := blockOf_eq_ok hblock
  exact ⟨by rwa [hfile], hkeeps.good story hstory scene.block hmem⟩

/-- **A destination of a story has no fault**: from within a file it leads to a block, or there is
    an error, and the library stays sound. -/
theorem exists_resolve (h : library.IsSound) {destination : Destination} {currentFile : String}
    (hdestination : destination.IsNulFree) (hfile : IsNulFree currentFile) :
    ∃ outcome, library.resolve destination currentFile = .ok outcome ∧
      outcome.Keeps Scene.IsRead := by
  cases destination with
  -- A block of the current file, or a file of its own.
  | block name => exact exists_find h hfile (some name)
  | file id block => exact exists_find h hdestination block
  | unknown form => exact absurd hdestination id

end Library

end Gamebook
