/-
  It makes no difference when a story is loaded.

  A library that loads its stories on demand reads a file when its story is wanted for the first
  time.  The same files can also be loaded beforehand.  As long as the files stay as they are, the
  stories that a library has loaded are only a shorter way to what the files hold:

  * `Library.IsCache`: every story that is loaded is the one that a library without stories would
    find.
  * `agree_get_emptied`: so looking up a story comes to what it would come to without any stories.
  * `Library.resolving_sharesFolder`: two such libraries over the same files look every destination
    up alike, and stay so.  Which ids they have loaded need not be the same.
  * `responses_preloaded`: so a play does not show which files were loaded before it began.
-/
import Gamebook.Proofs.InStep
import Gamebook.Proofs.StoryStore

namespace Gamebook

open Markup

namespace Library

/-- A library without stories that loads them from a folder on demand. -/
def ofFolder (grammar : Grammar) (base : Path) (disk : Disk) : Library where
  grammar := grammar
  base := base
  disk := disk
  onDemand := true

/-- The library without its stories. -/
def emptied (library : Library) : Library := { library with stories := ∅ }

/-- Every story that is loaded is the one that would be found if it were not. -/
def IsCache (library : Library) : Prop :=
  ∀ fileId story, library.stories.get? fileId = some story →
    ∃ outcome, library.emptied.get fileId = .ok outcome ∧ outcome.result = .ok story

/-- Two libraries find their stories in the same files, by the same rules, and have loaded nothing
    else. -/
structure SharesFolder (l m : Library) : Prop where
  emptied : l.emptied = m.emptied
  left : l.IsCache
  right : m.IsCache

variable {library : Library} {fileId : String}

theorem isCache_ofFolder (grammar : Grammar) (base : Path) (disk : Disk) :
    (ofFolder grammar base disk).IsCache := by
  intro fileId story hstory
  cases hstory

/-- Registering what is found anyway leaves a cache. -/
theorem IsCache.register (h : library.IsCache) {story : Story}
    (hfound : ∃ outcome, library.emptied.get fileId = .ok outcome ∧ outcome.result = .ok story) :
    (library.register fileId story).IsCache := by
  intro other found hother
  rw [Library.register, Table.get?_insert] at hother
  split at hother
  next hid =>
    cases hother
    rw [hid]
    exact hfound
  next => exact h other found hother

/-- Loading a file leaves a cache of the same files, where files are loaded on demand as well. -/
theorem IsCache.loadFile (h : library.IsCache) (hdemand : library.onDemand = true)
    {outcome : Outcome LoadError Story} (hload : library.loadFile fileId = .ok outcome) :
    outcome.library.emptied = library.emptied ∧ outcome.library.IsCache := by
  rcases loadFile_cases library fileId with
    ⟨text, story, hnul, hread, hstory, hsame⟩ | ⟨error, hsame⟩ | hsame <;>
    rw [hload] at hsame <;> cases hsame
  -- The file is read and its story registered: without stories the same file would have been read.
  · have hfound : library.emptied.get fileId = _ := get_of_read hdemand rfl hnul hread hstory
    exact ⟨rfl, h.register ⟨_, hfound, rfl⟩⟩
  · exact ⟨rfl, h⟩

/-- The stories that are loaded have no part in loading a file. -/
theorem result_loadFile_emptied (library : Library) (fileId : String) :
    (library.loadFile fileId).map Outcome.result =
      (library.emptied.loadFile fileId).map Outcome.result := by
  have hpath : library.emptied.pathOf fileId = library.pathOf fileId := rfl
  have hdisk : library.emptied.disk = library.disk := rfl
  have hgrammar : library.emptied.grammar = library.grammar := rfl
  simp only [Library.loadFile, load, hpath, hdisk, hgrammar]
  split
  next => rfl
  next =>
    cases library.disk.read (library.pathOf fileId) with
    | error failure => rfl
    | ok text =>
      dsimp only
      cases readStory library.grammar fileId text <;> rfl

/-- One library is a cache of the same files as this one. -/
def CachesLike (library one _ : Library) : Prop :=
  one.emptied = library.emptied ∧ one.IsCache

/-- Loading a file comes to the same with and without the stories. -/
theorem agree_loadFile_emptied (h : library.IsCache) (hdemand : library.onDemand = true)
    (fileId : String) :
    Outcome.Agree library.CachesLike (library.loadFile fileId)
      (library.emptied.loadFile fileId) := by
  have hsame := result_loadFile_emptied library fileId
  cases hone : library.loadFile fileId with
  | error fault =>
    cases hother : library.emptied.loadFile fileId <;> rw [hone, hother] at hsame <;> cases hsame
    exact .fault fault
  | ok outcome =>
    cases hother : library.emptied.loadFile fileId <;> rw [hone, hother] at hsame
    · cases hsame
    · exact .outcome (Except.ok.inj hsame) (h.loadFile hdemand hone)

/-- What the library finds is what it would find without its stories, and it stays a cache of the
    same files. -/
theorem agree_get_emptied (h : library.IsCache) (fileId : String) :
    Outcome.Agree library.CachesLike (library.get fileId) (library.emptied.get fileId) := by
  have hempty : library.emptied.contains fileId = false := rfl
  cases hnew : library.contains fileId with
  -- The story is loaded already, and it is a cached one.
  | true =>
    obtain ⟨story, hstory⟩ := contains_iff.1 hnew
    obtain ⟨outcome, hget, hok⟩ := h fileId story hstory
    rw [get_of_loaded hstory, hget]
    exact .outcome hok.symm ⟨rfl, h⟩
  | false =>
    cases hdemand : library.onDemand with
    | false =>
      have hoffline : library.emptied.get fileId = _ := get_of_offline hdemand hempty
      rw [get_of_offline hdemand hnew, hoffline]
      exact .outcome rfl ⟨rfl, h⟩
    -- It is not loaded, and both libraries look into the folder.
    | true =>
      have hget : library.emptied.get fileId = _ := get_of_new hdemand hempty
      rw [get_of_new hdemand hnew, hget]
      exact (agree_loadFile_emptied h hdemand fileId).map
        (Except.mapError (ResolutionError.loadFailed fileId))

/-- Two look-ups that agree with a third one agree with each other. -/
theorem agree_get {l m : Library} (h : l.SharesFolder m) (fileId : String) :
    Outcome.Agree SharesFolder (l.get fileId) (m.get fileId) := by
  have hone := agree_get_emptied h.left fileId
  have hother := agree_get_emptied h.right fileId
  rw [← h.emptied] at hother
  generalize l.get fileId = one at hone
  generalize m.get fileId = other at hother
  -- Without its stories either library is this third one.
  generalize l.emptied.get fileId = third at hone hother
  cases hone with
  | fault fault =>
    cases hother
    exact .fault fault
  | outcome hresult hlibrary =>
    cases hother with
    | outcome hresult' hlibrary' =>
      obtain ⟨hempty, hcache⟩ := hlibrary
      obtain ⟨hempty', hcache'⟩ := hlibrary'
      exact .outcome (hresult.trans hresult'.symm)
        ⟨hempty.trans (h.emptied.trans hempty'.symm), hcache, hcache'⟩

/-- Libraries over the same folder look up every destination alike. -/
theorem resolving_sharesFolder : Resolving SharesFolder := by
  intro l m h destination currentFile
  have hfind : ∀ fileId block,
      Outcome.Agree SharesFolder (l.find fileId block) (m.find fileId block) := by
    intro fileId block
    have hmap := (agree_get h fileId).map (Except.bind · (blockOf · fileId block))
    rw [find, find]
    cases hone : l.get fileId <;> cases hother : m.get fileId <;> rw [hone, hother] at hmap <;>
      exact hmap
  cases destination with
  | block name => exact hfind currentFile (some name)
  | file id block => exact hfind id block
  | unknown form => exact .fault _

/-- Loading files beforehand, whether or not it succeeds, leaves the library sharing its folder with
    what it was. -/
theorem sharesFolder_after (hdemand : library.onDemand = true) (h : library.IsCache)
    (fileIds : List String) :
    (library.after (fileIds.map .loadFile)).SharesFolder library := by
  induction fileIds generalizing library with
  | nil => exact ⟨rfl, h, h⟩
  | cons fileId fileIds ih =>
    have hfirst : (library.serve (.loadFile fileId)).1.SharesFolder library := by
      show (library.conclude .load (library.loadFile fileId)).1.SharesFolder library
      cases hload : library.loadFile fileId with
      | error fault => exact ⟨rfl, h, h⟩
      | ok outcome =>
        obtain ⟨hempty, hcache⟩ := h.loadFile hdemand hload
        rw [conclude]
        cases outcome.result <;> exact ⟨hempty, hcache, h⟩
    have hdemand' := (serve_setting library (.loadFile fileId)).2.trans hdemand
    have hrest := ih hdemand' hfirst.left
    exact ⟨hrest.emptied.trans hfirst.emptied, hrest.left, h⟩

/-- A story that both libraries have is the same in both. -/
theorem SharesFolder.story_eq {l m : Library} (h : l.SharesFolder m) {one other : Story}
    (hone : l.stories.get? fileId = some one) (hother : m.stories.get? fileId = some other) :
    one = other := by
  obtain ⟨outcome, hget, hok⟩ := h.left fileId one hone
  obtain ⟨outcome', hget', hok'⟩ := h.right fileId other hother
  rw [h.emptied, hget'] at hget
  cases hget
  rw [hok'] at hok
  cases hok
  rfl

end Library

namespace Play

/-- **Loading beforehand makes no difference.** Let the files stay as they are, and load some of
    them before the play begins, or none: all that is done to the play gets the same responses, with
    the same failures and texts, and leaves the same state; only in the log can it be seen what was
    loaded when, and in the ids that are loaded, under each of which there is the same story. -/
theorem responses_preloaded (grammar : Grammar) (base : Path) (disk : Disk)
    (fileIds : List String) (state : State) {acts : List Act}
    (hacts : ∀ act ∈ acts, act.isOfPlay = true) :
    let ready := fresh ((Library.ofFolder grammar base disk).after (fileIds.map .loadFile)) state
    let bare := fresh (Library.ofFolder grammar base disk) state
    ready.responses acts = bare.responses acts ∧
      InStep Eq Library.SharesFolder (ready.performAll acts) (bare.performAll acts) ∧
      ∀ fileId one other, (ready.performAll acts).library.stories.get? fileId = some one →
        (bare.performAll acts).library.stories.get? fileId = some other → one = other := by
  intro ready bare
  have hshares : Library.SharesFolder ready.library bare.library :=
    Library.sharesFolder_after rfl (Library.isCache_ofFolder grammar base disk) fileIds
  have hbegin : InStep Eq Library.SharesFolder ready bare :=
    ⟨rfl, hshares, rfl, rfl, rfl, rfl⟩
  obtain ⟨hresponses, hplays⟩ := performAll_inStep State.isCongruence_eq
    Library.resolving_sharesFolder
    (fun act hmem hact => by rw [hacts act hmem] at hact; cases hact) hbegin
  exact ⟨hresponses, hplays, fun fileId one other => hplays.library.story_eq⟩

/-- A house of two files, of which the second one leads to a third that is no story. -/
def houseDisk : Disk where
  contents :=
    [(["house", "hall"], .text "@block hall\n@incr counter:rooms\n@option Up -> attic:\n@end\n"),
      (["house", "attic"], .text "@block attic\nDust.\n@jump roof:\n@end\n"),
      (["house", "roof"], .text "Tiles.\n")]

/-- Going up through the house, until there is no further. -/
def houseActs : List Act := [.start "hall" none, .choose (.index 0)]

theorem responses_preloaded_house :
    (∀ act ∈ houseActs, act.isOfPlay = true) ∧
      (let folder := Library.ofFolder {} (.ofString "house") houseDisk
       let ready := fresh (folder.after (["attic", "hall", "roof"].map .loadFile)) {}
       let bare := fresh folder {}
       ready.responses houseActs = bare.responses houseActs ∧
         (ready.library.fileIds = ["attic", "hall"] ∧ bare.library.fileIds = []) ∧
         (bare.performAll houseActs).state.counter "rooms" = 1 ∧
         (bare.performAll houseActs).shown = [.lineEnd, .text "Dust." none] ∧
         (bare.performAll houseActs).place = ⟨"attic", "attic"⟩) := by
  have hacts : ∀ act ∈ houseActs, act.isOfPlay = true := by
    intro act hmem
    rcases List.mem_cons.1 hmem with rfl | hmem
    · rfl
    · rw [List.mem_singleton.1 hmem]
      rfl
  obtain ⟨hresponses, -, -⟩ := responses_preloaded {} (.ofString "house") houseDisk
    ["attic", "hall", "roof"] {} hacts
  exact ⟨hacts, hresponses, by decide +kernel, by decide +kernel⟩

end Play
end Gamebook
