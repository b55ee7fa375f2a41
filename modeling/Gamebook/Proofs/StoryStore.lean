/-
  A library as a store of stories.

  Texts and files are loaded, stories and blocks are looked up, and all the while the files change.
  A request may fail: its text is no story, its file cannot be read, its block is not there.  What
  the library holds in the end is told here without following the table of stories:

  * `Library.Loads`: a request loads a story under an id, by reading some text.  Whether it does can
    be seen from what the request comes to, and, for a look-up, from the id being new.
  * `serves`: the step lemma.  A request loads one story, which is then registered, or it loads
    none, and then nothing but the files can have changed.
  * `get?_after_iff`: the run lemma.  The story under an id is what the text that was loaded last
    under this id reads as.
  * `after_isStore`: what it means for a caller, whatever was asked before and however much of it
    has failed.
-/
import Gamebook.Proofs.LookUp

namespace Gamebook

open Markup

/-! ## What is asked of a library

  All requests are put under one type, so that a history is a list of them.  What a request hands
  back is left out, apart from the reason of its failure; what a look-up gives is stated where it is
  looked up. -/

/-- Something that is asked of a library, or that happens to its files. -/
inductive Request where
  | load (fileId text : String)
  | loadFile (fileId : String)
  | get (fileId : String)
  | resolve (destination : Destination) (currentFile : String)
  | writeFile (location : Location) (content : Content)
  /-- The files are other ones from now on, whatever happened to them. -/
  | changeDisk (disk : Disk)

/-- Why a request fails. -/
inductive Refusal where
  | parse (error : ParseError)
  | load (error : LoadError)
  | resolution (error : ResolutionError)
  | fault (fault : Fault)

/-- The file that a destination leads to from within a file. -/
def Destination.fileFrom? (currentFile : String) : Destination → Option String
  | .block _ => some currentFile
  | .file id _ => some id
  | .unknown _ => none

namespace Library

/-- The library that an operation leaves, and why the operation failed, if it did. -/
def conclude {ε α : Type} (library : Library) (refusal : ε → Refusal) :
    Except Fault (Outcome ε α) → Library × Option Refusal
  | .error fault => (library, some (.fault fault))
  | .ok outcome =>
    match outcome.result with
    | .ok _ => (outcome.library, none)
    | .error error => (outcome.library, some (refusal error))

/-- The library after a request, and why the request failed, if it did. -/
def serve (library : Library) : Request → Library × Option Refusal
  | .load fileId text => library.conclude .parse (.ok (library.load fileId text))
  | .loadFile fileId => library.conclude .load (library.loadFile fileId)
  | .get fileId => library.conclude .resolution (library.get fileId)
  | .resolve destination currentFile =>
    library.conclude .resolution (library.resolve destination currentFile)
  | .writeFile location content => (library.writeFile location content, none)
  | .changeDisk disk => ({ library with disk }, none)

/-- The library after some requests in their order. -/
def after (library : Library) (requests : List Request) : Library :=
  requests.foldl (fun library request => (library.serve request).1) library

theorem after_append (library : Library) (earlier later : List Request) :
    library.after (earlier ++ later) = (library.after earlier).after later :=
  List.foldl_append

/-! ## What loads a story

  Four requests may load a story.  Two of them do so only if the story is not there yet, and one of
  these goes on to look for a block afterwards. -/

/-- Looking up a story that is not loaded succeeds, the file of its id holding this text. -/
structure LoadsOnDemand (library : Library) (fileId text : String) : Prop where
  new : library.contains fileId = false
  read : library.disk.read (library.pathOf fileId) = .ok text
  succeeds : ∃ outcome story, library.get fileId = .ok outcome ∧ outcome.result = .ok story

/-- A request succeeds in loading a story under an id, by reading a text. A look-up that does not
    find its block has loaded the story all the same. -/
inductive Loads (library : Library) (fileId text : String) : Request → Prop
  | load {story : Story} (hok : (library.load fileId text).result = .ok story) :
      Loads library fileId text (.load fileId text)
  | loadFile {outcome : Outcome LoadError Story} {story : Story}
      (hload : library.loadFile fileId = .ok outcome) (hok : outcome.result = .ok story)
      (hread : library.disk.read (library.pathOf fileId) = .ok text) :
      Loads library fileId text (.loadFile fileId)
  | get (hget : library.LoadsOnDemand fileId text) : Loads library fileId text (.get fileId)
  | resolve {destination : Destination} {currentFile : String}
      (hfile : destination.fileFrom? currentFile = some fileId)
      (hget : library.LoadsOnDemand fileId text) :
      Loads library fileId text (.resolve destination currentFile)

variable {library : Library} {fileId text : String} {story : Story}

/-- What registering a story under an id comes to. -/
def registered (library : Library) (fileId : String) (story : Story) (ε : Type) :
    Outcome ε Story where
  result := .ok story
  library := library.register fileId story
  log := [library.registration fileId story, .parsed story.blocks.length fileId]

theorem load_of_ok (hread : readStory library.grammar fileId text = .ok story) :
    library.load fileId text = library.registered fileId story ParseError := by
  rw [load, hread]
  rfl

theorem load_of_error {error : ParseError}
    (hread : readStory library.grammar fileId text = .error error) :
    library.load fileId text = { result := .error error, library } := by
  rw [load, hread]

/-- A file is loaded by reading the text that it holds. -/
theorem loadFile_of_read (hnul : (library.pathOf fileId).hasNul = false)
    (hread : library.disk.read (library.pathOf fileId) = .ok text)
    (hstory : readStory library.grammar fileId text = .ok story) :
    library.loadFile fileId = .ok (library.registered fileId story LoadError) := by
  simp only [loadFile, hnul, hread, load_of_ok hstory]
  rfl

/-- A file is loaded from the text that it holds, or not at all. -/
theorem loadFile_cases (library : Library) (fileId : String) :
    (∃ text story, (library.pathOf fileId).hasNul = false ∧
      library.disk.read (library.pathOf fileId) = .ok text ∧
      readStory library.grammar fileId text = .ok story ∧
      library.loadFile fileId = .ok (library.registered fileId story LoadError)) ∨
    (∃ error, library.loadFile fileId = .ok { result := .error error, library }) ∨
    library.loadFile fileId = .error .nulInPath := by
  cases hnul : (library.pathOf fileId).hasNul with
  -- The path cannot be used at all.
  | true =>
    right; right
    simp only [loadFile, hnul]
    rfl
  | false =>
    cases hread : library.disk.read (library.pathOf fileId) with
    | error failure =>
      right; left
      exact ⟨.read ⟨failure, library.pathOf fileId⟩, by simp only [loadFile, hnul, hread]; rfl⟩
    | ok text =>
      cases hstory : readStory library.grammar fileId text with
      | error error =>
        right; left
        exact ⟨.parse error, by
          simp only [loadFile, hnul, hread, load_of_error hstory]; rfl⟩
      | ok story =>
        left
        exact ⟨text, story, rfl, rfl, hstory, loadFile_of_read hnul hread hstory⟩

theorem contains_eq_false_iff : library.contains fileId = false ↔
    library.stories.get? fileId = none := by
  rw [contains, Table.contains, Option.isSome_eq_false_iff, Option.isNone_iff_eq_none]

theorem contains_iff : library.contains fileId = true ↔
    ∃ story, library.stories.get? fileId = some story := Option.isSome_iff_exists

/-- A story that is loaded is found, without a look at the files. -/
theorem get_of_loaded (hstory : library.stories.get? fileId = some story) :
    library.get fileId = .ok { result := .ok story, library } := by
  rw [get, hstory]

/-- Without a folder to load from, what is not loaded is not found. -/
theorem get_of_offline (hdemand : library.onDemand = false)
    (hnew : library.contains fileId = false) :
    library.get fileId = .ok { result := .error (.unknownFile fileId), library } := by
  simp only [get, contains_eq_false_iff.1 hnew, hdemand]
  rfl

/-- With a folder to load from, what is not loaded is loaded like a file. -/
theorem get_of_new (hdemand : library.onDemand = true) (hnew : library.contains fileId = false) :
    library.get fileId = (library.loadFile fileId).map fun outcome =>
      { outcome with result := outcome.result.mapError (.loadFailed fileId) } := by
  simp only [get, contains_eq_false_iff.1 hnew, hdemand]
  cases library.loadFile fileId <;> rfl

/-- Looking up a story loads it from the text that its file holds, or leaves the library as it
    is. -/
theorem get_cases (library : Library) (fileId : String) :
    (∃ text story, library.LoadsOnDemand fileId text ∧
      readStory library.grammar fileId text = .ok story ∧
      library.get fileId = .ok (library.registered fileId story ResolutionError)) ∨
    (∀ text, ¬ library.LoadsOnDemand fileId text) ∧
      ((∃ result, library.get fileId = .ok { result, library }) ∨
        library.get fileId = .error .nulInPath) := by
  cases hnew : library.contains fileId with
  -- The story is there already.
  | true =>
    obtain ⟨story, hstory⟩ := contains_iff.1 hnew
    right
    refine ⟨fun text h => ?_, .inl ⟨_, get_of_loaded hstory⟩⟩
    rw [h.new] at hnew
    cases hnew
  | false =>
    cases hdemand : library.onDemand with
    -- There is no folder to load from.
    | false =>
      have hget := get_of_offline hdemand hnew
      right
      refine ⟨fun text h => ?_, .inl ⟨_, hget⟩⟩
      obtain ⟨outcome, story, hsame, hok⟩ := h.succeeds
      rw [hget] at hsame
      cases hsame
      cases hok
    -- The file is loaded, or fails to be.
    | true =>
      have hget := get_of_new hdemand hnew
      rcases loadFile_cases library fileId with ⟨text, story, -, hread, hstory, hload⟩ | hnone
      · rw [hload] at hget
        exact .inl ⟨text, story, ⟨hnew, hread, _, story, hget, rfl⟩, hstory, hget⟩
      · right
        rcases hnone with ⟨error, hload⟩ | hload <;> rw [hload] at hget
        · refine ⟨fun text h => ?_, .inl ⟨_, hget⟩⟩
          obtain ⟨outcome, story, hsame, hok⟩ := h.succeeds
          rw [hget] at hsame
          cases hsame
          cases hok
        · refine ⟨fun text h => ?_, .inr hget⟩
          obtain ⟨outcome, story, hsame, hok⟩ := h.succeeds
          rw [hget] at hsame
          cases hsame

/-- With a folder to load from, what is not loaded is found where its file holds a story. -/
theorem get_of_read (hdemand : library.onDemand = true) (hnew : library.contains fileId = false)
    (hnul : (library.pathOf fileId).hasNul = false)
    (hread : library.disk.read (library.pathOf fileId) = .ok text)
    (hstory : readStory library.grammar fileId text = .ok story) :
    library.get fileId = .ok (library.registered fileId story ResolutionError) := by
  rw [get_of_new hdemand hnew, loadFile_of_read hnul hread hstory]
  rfl

/-- Looking up a story in vain leaves no trace. -/
theorem library_of_get_error {outcome : Outcome ResolutionError Story} {error : ResolutionError}
    (hget : library.get fileId = .ok outcome) (herror : outcome.result = .error error) :
    outcome.library = library ∧ outcome.log = [] := by
  cases finds_get hget with
  | present _ => cases herror
  | absent _ => exact ⟨rfl, rfl⟩
  | loaded _ => cases herror

/-! ## What a request can come to

  The inversion lemma of the whole module: three things can become of the library, and each of them
  says whether the request has loaded something.  Every further fact about requests comes from it,
  without another look at the operations themselves. -/

/-- The request asks for a block of this file, and fails because the story of the file does not have
    it, or has no block to begin with. -/
inductive MissesBlock (fileId : String) : Request → Refusal → Prop
  | noEntry {destination : Destination} {currentFile : String}
      (hfile : destination.fileFrom? currentFile = some fileId) :
      MissesBlock fileId (.resolve destination currentFile) (.resolution (.noEntry fileId))
  | noBlock {destination : Destination} {currentFile : String} (block : String)
      (hfile : destination.fileFrom? currentFile = some fileId) :
      MissesBlock fileId (.resolve destination currentFile) (.resolution (.noBlock fileId block))

/-- What a request can come to: it loads a story, and may then miss the block that it asked for; or
    it loads none and keeps everything as it is; or the files change. -/
inductive Serves (library : Library) (request : Request) : Library × Option Refusal → Prop
  | loaded {fileId text : String} {story : Story} {refusal : Option Refusal}
      (hloads : library.Loads fileId text request)
      (hread : readStory library.grammar fileId text = .ok story)
      (hrefusal : ∀ reason, refusal = some reason →
        library.LoadsOnDemand fileId text ∧ MissesBlock fileId request reason) :
      Serves library request (library.register fileId story, refusal)
  | kept (refusal : Option Refusal) (hnone : ∀ fileId text, ¬ library.Loads fileId text request) :
      Serves library request (library, refusal)
  | changed (disk : Disk) (hnone : ∀ fileId text, ¬ library.Loads fileId text request) :
      Serves library request ({ library with disk }, none)

/-- A request that loads a story and succeeds misses nothing. -/
theorem Serves.of_loads {request : Request} (hloads : library.Loads fileId text request)
    (hread : readStory library.grammar fileId text = .ok story) :
    library.Serves request (library.register fileId story, none) :=
  .loaded hloads hread fun _ hreason => by cases hreason

/-- A story lacks its block, or it has none to begin with. -/
theorem blockOf_eq_error {block : Option String} {error : ResolutionError}
    (h : blockOf story fileId block = .error error) :
    error = .noEntry fileId ∨ ∃ name, error = .noBlock fileId name := by
  rw [blockOf] at h
  split at h
  next => cases h; exact .inl rfl
  next name _ =>
    split at h
    next => cases h
    next => cases h; exact .inr ⟨name, rfl⟩

/-- A destination in a file is looked up by looking for a block of that file. -/
theorem resolve_eq_find (library : Library) {destination : Destination} {currentFile : String}
    (hfile : destination.fileFrom? currentFile = some fileId) :
    ∃ block, library.resolve destination currentFile = library.find fileId block := by
  cases destination with
  | block name => cases hfile; exact ⟨some name, rfl⟩
  | file id block => cases hfile; exact ⟨block, rfl⟩
  | unknown form => cases hfile

theorem serves_load (library : Library) (fileId text : String) :
    library.Serves (.load fileId text) (library.serve (.load fileId text)) := by
  show Serves library _ (library.conclude .parse (.ok (library.load fileId text)))
  cases hread : readStory library.grammar fileId text with
  | error error =>
    rw [load_of_error hread]
    refine .kept _ fun id other h => ?_
    cases h with
    | load hok =>
      rw [load_of_error hread] at hok
      cases hok
  | ok story =>
    have hload := load_of_ok hread
    rw [hload]
    exact .of_loads (.load (congrArg Outcome.result hload)) hread

theorem serves_loadFile (library : Library) (fileId : String) :
    library.Serves (.loadFile fileId) (library.serve (.loadFile fileId)) := by
  show Serves library _ (library.conclude .load (library.loadFile fileId))
  rcases loadFile_cases library fileId with
    ⟨text, story, -, hread, hstory, hload⟩ | ⟨error, hload⟩ | hload <;> rw [hload]
  · exact .of_loads (.loadFile hload rfl hread) hstory
  · refine .kept _ fun id text h => ?_
    cases h with
    | loadFile hsame hok _ =>
      rw [hload] at hsame
      cases hsame
      cases hok
  · refine .kept _ fun id text h => ?_
    cases h with
    | loadFile hsame _ _ =>
      rw [hload] at hsame
      cases hsame

theorem serves_get (library : Library) (fileId : String) :
    library.Serves (.get fileId) (library.serve (.get fileId)) := by
  show Serves library _ (library.conclude .resolution (library.get fileId))
  rcases get_cases library fileId with ⟨text, story, hloads, hread, hget⟩ | ⟨hnone, hget⟩
  · rw [hget]
    exact .of_loads (.get hloads) hread
  · have hnot : ∀ id text, ¬ library.Loads id text (.get fileId) := by
      intro id text h
      cases h with
      | get hloads => exact hnone text hloads
    rcases hget with ⟨result, hget⟩ | hget <;> rw [hget]
    · cases result <;> exact .kept _ hnot
    · exact .kept _ hnot

theorem serves_resolve (library : Library) (destination : Destination) (currentFile : String) :
    library.Serves (.resolve destination currentFile)
      (library.serve (.resolve destination currentFile)) := by
  show Serves library _
    (library.conclude .resolution (library.resolve destination currentFile))
  cases hfile : destination.fileFrom? currentFile with
  | none =>
    cases destination with
    | unknown form =>
      refine .kept _ fun id text h => ?_
      cases h with
      | resolve hother _ => cases hother
    | _ => cases hfile
  | some fileId =>
    obtain ⟨block, hfind⟩ := resolve_eq_find library hfile
    rw [hfind, find]
    rcases get_cases library fileId with ⟨text, story, hloads, hread, hget⟩ | ⟨hnone, hget⟩
    · rw [hget]
      -- The story is registered now, whether or not the block is found in it.
      show Serves library _ (library.conclude .resolution (.ok { library.registered fileId story
        ResolutionError with result := blockOf story fileId block }))
      cases hblock : blockOf story fileId block with
      | ok scene => exact .of_loads (.resolve hfile hloads) hread
      | error error =>
        refine .loaded (.resolve hfile hloads) hread fun reason hreason => ⟨hloads, ?_⟩
        cases hreason
        rcases blockOf_eq_error hblock with rfl | ⟨name, rfl⟩
        · exact .noEntry hfile
        · exact .noBlock name hfile
    · have hnot : ∀ id text, ¬ library.Loads id text (.resolve destination currentFile) := by
        intro id text h
        cases h with
        | resolve hother hloads =>
          rw [hfile] at hother
          cases hother
          exact hnone text hloads
      rcases hget with ⟨result, hget⟩ | hget <;> rw [hget]
      · show Serves library _ (library.conclude .resolution
          (.ok { result := result.bind (blockOf · fileId block), library }))
        cases result.bind (blockOf · fileId block) <;> exact .kept _ hnot
      · exact .kept _ hnot

/-- **The step lemma**: no request comes to anything else. -/
theorem serves (library : Library) (request : Request) :
    library.Serves request (library.serve request) := by
  cases request with
  | load fileId text => exact serves_load library fileId text
  | loadFile fileId => exact serves_loadFile library fileId
  | get fileId => exact serves_get library fileId
  | resolve destination currentFile => exact serves_resolve library destination currentFile
  | writeFile location content => exact .changed _ nofun
  | changeDisk disk => exact .changed disk nofun

/-- A request loads one story at most, and reads one text for it. -/
theorem Loads.unique {request : Request} {otherId otherText : String}
    (h : library.Loads fileId text request) (hother : library.Loads otherId otherText request) :
    otherId = fileId ∧ otherText = text := by
  have hsame : ∀ {other}, library.disk.read (library.pathOf fileId) = .ok text →
      library.disk.read (library.pathOf fileId) = .ok other → other = text := by
    intro other hread hread'
    rw [hread] at hread'
    cases hread'
    rfl
  cases h with
  | load _ => cases hother; exact ⟨rfl, rfl⟩
  | loadFile _ _ hread =>
    cases hother with
    | loadFile _ _ hread' => exact ⟨rfl, hsame hread hread'⟩
  | get hget =>
    cases hother with
    | get hget' => exact ⟨rfl, hsame hget.read hget'.read⟩
  | resolve hfile hget =>
    cases hother with
    | resolve hfile' hget' =>
      rw [hfile] at hfile'
      cases hfile'
      exact ⟨rfl, hsame hget.read hget'.read⟩

/-- No request changes the grammar, or whether stories are loaded on demand. -/
theorem serve_setting (library : Library) (request : Request) :
    (library.serve request).1.grammar = library.grammar ∧
      (library.serve request).1.onDemand = library.onDemand := by
  have hserves := library.serves request
  generalize library.serve request = served at hserves
  cases hserves <;> exact ⟨rfl, rfl⟩

/-- After a request there is, under each id, the story that it loaded, or else the story that was
    there before. -/
theorem get?_serve_iff (library : Library) (request : Request) :
    (library.serve request).1.stories.get? fileId = some story ↔
      (∃ text, library.Loads fileId text request ∧
        readStory library.grammar fileId text = .ok story) ∨
      (∀ text, ¬ library.Loads fileId text request) ∧
        library.stories.get? fileId = some story := by
  -- Where nothing is loaded under this id, its story is what it was.
  have hkept : (∀ text, ¬ library.Loads fileId text request) →
      (library.stories.get? fileId = some story ↔
        (∃ text, library.Loads fileId text request ∧
          readStory library.grammar fileId text = .ok story) ∨
        (∀ text, ¬ library.Loads fileId text request) ∧
          library.stories.get? fileId = some story) := by
    intro hnone
    constructor
    · intro hsome
      exact .inr ⟨hnone, hsome⟩
    · rintro (⟨text, hloads, -⟩ | ⟨-, hsome⟩)
      · exact absurd hloads (hnone text)
      · exact hsome
  have hserves := library.serves request
  generalize library.serve request = served at hserves
  cases hserves with
  | @loaded id text found refusal hloads hread _ =>
    show (library.stories.insert id found).get? fileId = some story ↔ _
    rw [Table.get?_insert]
    split
    -- The story was loaded under this id.
    next hid =>
      subst hid
      constructor
      · intro hsome
        cases hsome
        exact .inl ⟨text, hloads, hread⟩
      · rintro (⟨other, hother, hread'⟩ | ⟨hnone, -⟩)
        · rw [(hloads.unique hother).2, hread] at hread'
          cases hread'
          rfl
        · exact absurd hloads (hnone text)
    -- It was loaded under another id, and so nothing was under this one.
    next hid =>
      refine hkept fun other hother => hid ?_
      exact (hloads.unique hother).1
  | kept refusal hnone => exact hkept (hnone fileId)
  | changed disk hnone => exact hkept (hnone fileId)

/-- A request that loads a story has a text that reads as one. -/
theorem Loads.exists_story {request : Request} (h : library.Loads fileId text request) :
    ∃ story, readStory library.grammar fileId text = .ok story := by
  have hserves := library.serves request
  generalize library.serve request = served at hserves
  cases hserves with
  | loaded hloads hread _ =>
    obtain ⟨rfl, rfl⟩ := hloads.unique h
    exact ⟨_, hread⟩
  | kept _ hnone => exact absurd h (hnone fileId text)
  | changed _ hnone => exact absurd h (hnone fileId text)

/-- An id is registered after a request just when the request has loaded it or it was before. -/
theorem contains_serve_iff (library : Library) (request : Request) :
    (library.serve request).1.contains fileId = true ↔
      (∃ text, library.Loads fileId text request) ∨ library.contains fileId = true := by
  rw [contains_iff, contains_iff]
  constructor
  · rintro ⟨story, hstory⟩
    rcases (get?_serve_iff library request).1 hstory with ⟨text, hloads, -⟩ | ⟨-, hkept⟩
    · exact .inl ⟨text, hloads⟩
    · exact .inr ⟨story, hkept⟩
  · intro h
    by_cases hloads : ∃ text, library.Loads fileId text request
    · obtain ⟨text, hloads⟩ := hloads
      obtain ⟨story, hread⟩ := hloads.exists_story
      exact ⟨story, (get?_serve_iff library request).2 (.inl ⟨text, hloads, hread⟩)⟩
    · obtain ⟨story, hstory⟩ := h.resolve_left hloads
      refine ⟨story, (get?_serve_iff library request).2 (.inr ⟨?_, hstory⟩)⟩
      intro text htext
      exact hloads ⟨text, htext⟩

/-! ## Histories

  The moment at which something is loaded is the number of its request.  What the library is like at
  that moment depends on the requests before it; going back one request turns a moment into the one
  before. -/

/-- The request of this number, counted from zero, loads a story under an id by reading a text. -/
def LoadsAt (library : Library) (requests : List Request) (moment : Nat)
    (fileId text : String) : Prop :=
  ∃ request, requests[moment]? = some request ∧
    (library.after (requests.take moment)).Loads fileId text request

/-- Of the requests that load a story under this id, the last one reads this text. -/
def LoadsLast (library : Library) (requests : List Request) (fileId text : String) : Prop :=
  ∃ moment, library.LoadsAt requests moment fileId text ∧
    ∀ later, moment < later → ∀ other, ¬ library.LoadsAt requests later fileId other

variable {request : Request} {requests : List Request}

theorem loadsAt_zero :
    library.LoadsAt (request :: requests) 0 fileId text ↔ library.Loads fileId text request := by
  constructor
  · rintro ⟨first, hfirst, hloads⟩
    cases hfirst
    exact hloads
  · intro hloads
    exact ⟨request, rfl, hloads⟩

theorem loadsAt_succ {moment : Nat} :
    library.LoadsAt (request :: requests) (moment + 1) fileId text ↔
      (library.serve request).1.LoadsAt requests moment fileId text := Iff.rfl

/-- Nothing is ever loaded under an id just if neither the first request loads it nor a later one.
    -/
theorem not_loadsAt_cons_iff :
    (∀ moment text, ¬ library.LoadsAt (request :: requests) moment fileId text) ↔
      (∀ text, ¬ library.Loads fileId text request) ∧
        ∀ moment text, ¬ (library.serve request).1.LoadsAt requests moment fileId text := by
  constructor
  · intro h
    exact ⟨fun text hloads => h 0 text (loadsAt_zero.2 hloads),
      fun moment text hloads => h (moment + 1) text (loadsAt_succ.2 hloads)⟩
  · rintro ⟨hfirst, hrest⟩ moment text hloads
    cases moment with
    | zero => exact hfirst text (loadsAt_zero.1 hloads)
    | succ moment => exact hrest moment text (loadsAt_succ.1 hloads)

/-- What is loaded last is loaded by the later requests, or by the first one and never again. -/
theorem loadsLast_cons_iff :
    library.LoadsLast (request :: requests) fileId text ↔
      (library.serve request).1.LoadsLast requests fileId text ∨
        library.Loads fileId text request ∧
          ∀ moment other, ¬ (library.serve request).1.LoadsAt requests moment fileId other := by
  constructor
  · rintro ⟨moment, hloads, hlast⟩
    cases moment with
    | zero =>
      refine .inr ⟨loadsAt_zero.1 hloads, fun later other hlater => ?_⟩
      exact hlast (later + 1) (by omega) other (loadsAt_succ.2 hlater)
    | succ moment =>
      refine .inl ⟨moment, loadsAt_succ.1 hloads, fun later hlt other hlater => ?_⟩
      exact hlast (later + 1) (by omega) other (loadsAt_succ.2 hlater)
  · rintro (⟨moment, hloads, hlast⟩ | ⟨hloads, hnever⟩)
    · refine ⟨moment + 1, loadsAt_succ.2 hloads, fun later hlt other hlater => ?_⟩
      obtain ⟨before, rfl⟩ : ∃ before, later = before + 1 := ⟨later - 1, by omega⟩
      exact hlast before (by omega) other (loadsAt_succ.1 hlater)
    · refine ⟨0, loadsAt_zero.2 hloads, fun later hlt other hlater => ?_⟩
      obtain ⟨before, rfl⟩ : ∃ before, later = before + 1 := ⟨later - 1, by omega⟩
      exact hnever before other (loadsAt_succ.1 hlater)

/-- No requests change the grammar, or whether stories are loaded on demand. -/
theorem after_setting (library : Library) (requests : List Request) :
    (library.after requests).grammar = library.grammar ∧
      (library.after requests).onDemand = library.onDemand := by
  induction requests generalizing library with
  | nil => exact ⟨rfl, rfl⟩
  | cons request requests ih =>
    obtain ⟨hgrammar, hdemand⟩ := serve_setting library request
    obtain ⟨hgrammar', hdemand'⟩ := ih (library.serve request).1
    exact ⟨hgrammar'.trans hgrammar, hdemand'.trans hdemand⟩

/-- **The run lemma**: after any requests there is, under each id, what the text that was loaded
    last under this id reads as; or, where nothing was loaded, what was there in the beginning. -/
theorem get?_after_iff (library : Library) (requests : List Request) :
    (library.after requests).stories.get? fileId = some story ↔
      (∃ text, library.LoadsLast requests fileId text ∧
        readStory library.grammar fileId text = .ok story) ∨
      (∀ moment text, ¬ library.LoadsAt requests moment fileId text) ∧
        library.stories.get? fileId = some story := by
  induction requests generalizing library with
  | nil =>
    constructor
    · intro hsome
      refine .inr ⟨fun moment text h => ?_, hsome⟩
      obtain ⟨request, hrequest, -⟩ := h
      cases hrequest
    · rintro (⟨text, ⟨moment, ⟨request, hrequest, -⟩, -⟩, -⟩ | ⟨-, hsome⟩)
      · cases hrequest
      · exact hsome
  | cons request requests ih =>
    show ((library.serve request).1.after requests).stories.get? fileId = some story ↔ _
    rw [ih, get?_serve_iff, not_loadsAt_cons_iff, (serve_setting library request).1]
    constructor
    · rintro (⟨text, hlast, hread⟩ | ⟨hnever, ⟨text, hloads, hread⟩ | ⟨hnone, hsome⟩⟩)
      · exact .inl ⟨text, loadsLast_cons_iff.2 (.inl hlast), hread⟩
      · exact .inl ⟨text, loadsLast_cons_iff.2 (.inr ⟨hloads, hnever⟩), hread⟩
      · exact .inr ⟨⟨hnone, hnever⟩, hsome⟩
    · rintro (⟨text, hlast, hread⟩ | ⟨⟨hnone, hnever⟩, hsome⟩)
      · rcases loadsLast_cons_iff.1 hlast with hlast | ⟨hloads, hnever⟩
        · exact .inl ⟨text, hlast, hread⟩
        · exact .inr ⟨hnever, .inl ⟨text, hloads, hread⟩⟩
      · exact .inr ⟨hnever, .inr ⟨hnone, hsome⟩⟩

/-- An id is registered after some requests just if one of them has loaded it or it was before. -/
theorem contains_after_iff (library : Library) (requests : List Request) :
    (library.after requests).contains fileId = true ↔
      (∃ moment text, library.LoadsAt requests moment fileId text) ∨
        library.contains fileId = true := by
  induction requests generalizing library with
  | nil =>
    constructor
    · exact .inr
    · rintro (⟨moment, text, request, hrequest, -⟩ | h)
      · cases hrequest
      · exact h
  | cons request requests ih =>
    show ((library.serve request).1.after requests).contains fileId = true ↔ _
    rw [ih, contains_serve_iff]
    constructor
    · rintro (⟨moment, text, hloads⟩ | ⟨text, hloads⟩ | h)
      · exact .inl ⟨moment + 1, text, loadsAt_succ.2 hloads⟩
      · exact .inl ⟨0, text, loadsAt_zero.2 hloads⟩
      · exact .inr h
    · rintro (⟨moment, text, hloads⟩ | h)
      · cases moment with
        | zero => exact .inr (.inl ⟨text, loadsAt_zero.1 hloads⟩)
        | succ moment => exact .inl ⟨moment, text, loadsAt_succ.1 hloads⟩
      · exact .inr (.inr h)

/-! ## What a caller can rely on

  Here the requests are those that fail.  A failure is harmless for what is there; the one thing it
  can leave behind is the story in which a block was missed. -/

section Refusals

variable {reason : Refusal} (hfails : (library.serve request).2 = some reason)

include hfails

/-- A request that fails changes nothing, unless it has loaded a story and then misses its block. -/
theorem serve_of_refusal :
    (library.serve request).1 = library ∨
      ∃ fileId text story, library.LoadsOnDemand fileId text ∧ MissesBlock fileId request reason ∧
        readStory library.grammar fileId text = .ok story ∧
        (library.serve request).1 = library.register fileId story := by
  have hserves := library.serves request
  generalize library.serve request = served at hserves hfails
  cases hserves with
  | loaded _ hread hrefusal =>
    obtain ⟨hloads, hmisses⟩ := hrefusal reason hfails
    exact .inr ⟨_, _, _, hloads, hmisses, hread, rfl⟩
  | kept _ _ => exact .inl rfl
  | changed _ _ => cases hfails

/-- A request that fails leaves every story as it is. -/
theorem get?_of_refusal (hstory : library.stories.get? fileId = some story) :
    (library.serve request).1.stories.get? fileId = some story := by
  rcases serve_of_refusal hfails with hsame | ⟨other, text, found, hloads, -, -, hregister⟩
  · rw [hsame]
    exact hstory
  · rw [hregister, register, Table.get?_insert]
    split
    next hid =>
      -- The story that a look-up loads was not there, so this is another one.
      subst hid
      have hmissing := contains_eq_false_iff.1 hloads.new
      rw [hstory] at hmissing
      cases hmissing
    next => exact hstory

/-- A request that fails adds nothing but the story in which it misses its block. -/
theorem misses_of_refusal (hnew : library.contains fileId = false)
    (hstory : (library.serve request).1.stories.get? fileId = some story) :
    MissesBlock fileId request reason ∧ ∃ text, library.LoadsOnDemand fileId text ∧
      readStory library.grammar fileId text = .ok story := by
  have hmissing := contains_eq_false_iff.1 hnew
  rcases serve_of_refusal hfails with
    hsame | ⟨other, text, found, hloads, hmisses, hread, hregister⟩
  · rw [hsame, hmissing] at hstory
    cases hstory
  · rw [hregister, register, Table.get?_insert] at hstory
    split at hstory
    next hid =>
      subst hid
      cases hstory
      exact ⟨hmisses, text, hloads, hread⟩
    next =>
      rw [hmissing] at hstory
      cases hstory

end Refusals

/-- The laws of a store of stories, for a library of which so much has been asked, beginning with no
    story. -/
structure IsStore (library : Library) (requests : List Request) : Prop where
  /-- The ids are those that were loaded, be it by a look-up. -/
  contains : ∀ fileId, (library.after requests).contains fileId = true ↔
    ∃ moment text, library.LoadsAt requests moment fileId text
  /-- The story of an id is what the text that was loaded last reads as. -/
  story : ∀ fileId story, (library.after requests).stories.get? fileId = some story ↔
    ∃ text, library.LoadsLast requests fileId text ∧
      readStory library.grammar fileId text = .ok story
  /-- A request that fails leaves every story as it is. -/
  kept : ∀ request reason fileId story,
    ((library.after requests).serve request).2 = some reason →
    (library.after requests).stories.get? fileId = some story →
    ((library.after requests).serve request).1.stories.get? fileId = some story
  /-- A request that fails adds a story only by looking for a block that is not in it, and then the
      story is what the text of its file reads as. -/
  added : ∀ request reason fileId story,
    ((library.after requests).serve request).2 = some reason →
    (library.after requests).contains fileId = false →
    ((library.after requests).serve request).1.stories.get? fileId = some story →
    MissesBlock fileId request reason ∧ ∃ text,
      (library.after requests).LoadsOnDemand fileId text ∧
        readStory library.grammar fileId text = .ok story
  /-- No id is ever dropped. -/
  lasting : ∀ fileId later, (library.after requests).contains fileId = true →
    (library.after (requests ++ later)).contains fileId = true
  /-- Looking up an id that is there gives its story, whatever the files hold by then. -/
  cached : ∀ fileId story disk, (library.after requests).stories.get? fileId = some story →
    { library.after requests with disk }.get fileId =
      .ok { result := .ok story, library := { library.after requests with disk } }
  /-- Looking up an id that is not there does not depend on the files unless they are to be loaded
      on demand. -/
  offline : ∀ fileId disk, library.onDemand = false →
    (library.after requests).contains fileId = false →
    { library.after requests with disk }.get fileId =
      .ok { result := .error (.unknownFile fileId)
            library := { library.after requests with disk } }
  /-- Looking up an id in vain leaves no trace. -/
  forgotten : ∀ fileId outcome error, (library.after requests).get fileId = .ok outcome →
    outcome.result = .error error → outcome.library = library.after requests ∧ outcome.log = []
  /-- An id that is not there is found as soon as its file holds a story, however often it was
      looked up in vain. -/
  repaired : ∀ fileId disk text story, library.onDemand = true →
    (library.after requests).contains fileId = false →
    ((library.after requests).pathOf fileId).hasNul = false →
    disk.read ((library.after requests).pathOf fileId) = .ok text →
    readStory library.grammar fileId text = .ok story →
    { library.after requests with disk }.get fileId =
      .ok ({ library.after requests with disk }.registered fileId story ResolutionError)

/-- **A library is a store of stories**: begin without stories, ask for anything in any order, with
    whatever failures, and let the files change in between. -/
theorem after_isStore (hnone : library.stories = ∅) (requests : List Request) :
    library.IsStore requests := by
  have hempty : ∀ id, library.stories.get? id = none := by
    intro id
    rw [hnone]
    rfl
  have hnothing : ∀ id, ¬ library.contains id = true := by
    intro id hid
    obtain ⟨story, hstory⟩ := contains_iff.1 hid
    rw [hempty] at hstory
    cases hstory
  obtain ⟨hgrammar, hdemand⟩ := after_setting library requests
  refine
    { contains := fun id => ?_
      story := fun id story => ?_
      kept := fun request reason id story hfails => get?_of_refusal hfails
      added := fun request reason id story hfails hnew hstory => ?_
      lasting := fun id later hid => ?_
      cached := fun id story disk hstory => get_of_loaded hstory
      offline := fun id disk hoffline hnew => ?_
      forgotten := fun id outcome error => library_of_get_error
      repaired := fun id disk text story hondemand hnew hnul hread hstory => ?_ }
  · rw [contains_after_iff]
    exact or_iff_left (hnothing id)
  · rw [get?_after_iff, hempty]
    exact or_iff_left fun h => by cases h.2
  · rw [← hgrammar]
    exact misses_of_refusal hfails hnew hstory
  · rw [after_append, contains_after_iff]
    exact .inr hid
  · exact get_of_offline (hdemand.trans hoffline) hnew
  · rw [← hgrammar] at hstory
    exact get_of_read (hdemand.trans hondemand) hnew hnul hread hstory

/-- A folder that is empty at first. -/
def emptyShelf : Library where
  base := .ofString "stories"
  onDemand := true

/-- The cave is looked for in vain, then written, found, spoilt, loaded in vain, and looked up for a
    block that it does not have; the tower is looked up for such a block alone. -/
def shelfRequests : List Request :=
  [.get "cave", .writeFile ["stories", "cave"] (.text "@block mouth\n@end\n"), .get "cave",
    .writeFile ["stories", "cave"] (.text "@block mouth\n"), .loadFile "cave",
    .resolve (.block "shaft") "cave",
    .writeFile ["stories", "tower"] (.text "@block stairs\n@end\n"),
    .resolve (.file "tower" (some "roof")) "cave"]

theorem after_isStore_shelf :
    emptyShelf.stories = ∅ ∧ emptyShelf.IsStore shelfRequests ∧
      (emptyShelf.after shelfRequests).fileIds = ["cave", "tower"] ∧
      ((emptyShelf.after shelfRequests).stories.get? "cave").map Story.blockNames =
        some ["mouth"] :=
  ⟨rfl, after_isStore rfl shelfRequests, by decide +kernel, by decide +kernel⟩

end Library
end Gamebook
