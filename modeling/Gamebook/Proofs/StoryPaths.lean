/-
  Where the files of destinations are.

  A destination that names a file has it looked for below the folder of the stories.  The name may
  go through directories, and double dots can be written in it, so the path need not stay below that
  folder.  Two things are told apart here: what a path comes to by its text alone, each double dot
  taking back the name before it, and where it leads on a disk.

  * `Path.resolved`: the path with its double dots taken back, as far as they can be.
  * `Path.staysInside`: read from the left, the double dots never outnumber the names.
  * `pathOf_inside_iff`: this is what keeps the file of a destination below every folder.  No other
    name is a danger: a file name cannot begin with a slash (`slashes_ofString`).
  * `pathOf_outside_cave`: a story that is read although one of its files is not below the folder.
-/
import Gamebook.Proofs.LookUp

namespace Gamebook

open Markup

/-! ## Destinations of a story

  Jumps and options lead to destinations, and both may stand in branches of conditionals. -/

mutual

/-- The destinations of a node, and of all that its branches hold. -/
def Node.destinations : Node → List Destination
  | .jump destination => [destination]
  | .menu choices => choices.map Choice.destination
  | .conditional _ thenNodes elseNodes =>
    Node.allDestinations thenNodes ++ Node.allDestinations elseNodes
  | .text _ | .change _ | .unknown _ => []

/-- The destinations of some nodes in their order. -/
def Node.allDestinations : List Node → List Destination
  | [] => []
  | node :: rest => node.destinations ++ Node.allDestinations rest

end

/-- The destinations of all jumps and options of a story, at every depth. -/
def Story.destinations (story : Story) : List Destination :=
  story.blocks.flatMap fun block => Node.allDestinations block.nodes

/-- A destination of some nodes is one of a node among them. -/
theorem Node.mem_allDestinations {nodes : List Node} {destination : Destination} :
    destination ∈ Node.allDestinations nodes ↔
      ∃ node ∈ nodes, destination ∈ node.destinations := by
  induction nodes with
  | nil => simp [Node.allDestinations]
  | cons node rest ih => simp [Node.allDestinations, ih]

/-- The destinations of a node that was read have names, at every depth. -/
theorem Node.IsRead.isNamed {node : Node} (h : node.IsRead) :
    ∀ destination ∈ node.destinations, destination.IsNamed := by
  induction h with
  | text run => exact fun _ hmem => absurd hmem List.not_mem_nil
  | change hread => exact fun _ hmem => absurd hmem List.not_mem_nil
  | jump hread =>
    intro destination hmem
    rw [List.mem_singleton.1 hmem]
    exact isNamed_of_readDestination hread
  | menu _ hread =>
    intro destination hmem
    obtain ⟨choice, hchoice, rfl⟩ := List.mem_map.1 hmem
    obtain ⟨column, arguments, hline⟩ := hread choice hchoice
    exact (isKnown_of_readOption hline).1
  | conditional _ _ _ ihthen ihelse =>
    intro destination hmem
    rcases List.mem_append.1 hmem with hmem | hmem
    · obtain ⟨node, hnode, hmem⟩ := Node.mem_allDestinations.1 hmem
      exact ihthen node hnode destination hmem
    · obtain ⟨node, hnode, hmem⟩ := Node.mem_allDestinations.1 hmem
      exact ihelse node hnode destination hmem

/-- The destinations of a story that was read have names. -/
theorem Story.isNamed_of_readStory {grammar : Grammar} {fileId text : String} {story : Story}
    (hread : readStory grammar fileId text = .ok story) :
    ∀ destination ∈ story.destinations, destination.IsNamed := by
  intro destination hmem
  obtain ⟨block, hblock, hmem⟩ := List.mem_flatMap.1 hmem
  obtain ⟨node, hnode, hmem⟩ := Node.mem_allDestinations.1 hmem
  exact (isRead_of_readStory hread block hblock node hnode).isNamed destination hmem

/-! ## Paths by their text

  A path is a row of components, and a stack of names is kept while they are read from the left.
  Names are put on it, and double dots take one off again.  The folder of the stories is at the
  bottom: as long as each double dot finds a name that was put there later, nothing of the folder is
  taken away. -/

namespace Path

/-- One more component of a path, after others of which the last is given first. A double dot takes
    back the last name. With no name to take back it stays, except at the root, which nothing leads
    out of. -/
def climb (rooted : Bool) (stack : List String) (name : String) : List String :=
  if name = ".." then
    match stack with
    | [] => if rooted then [] else [".."]
    | last :: outer => if last = ".." then ".." :: stack else outer
  else name :: stack

/-- The path with its double dots taken back, as far as they can be. -/
def resolved (path : Path) : Path :=
  { path with components := (path.components.foldl (climb (path.slashes ≠ 0)) []).reverse }

/-- The path lies below the folder: it goes on from there by names alone. -/
structure Encloses (folder path : Path) : Prop where
  slashes : path.slashes = folder.slashes
  below : ∃ below, path.components = folder.components ++ below ∧ ".." ∉ below

/-- Begun so many names below a folder, the components never lead out of it. -/
def staysInside : (depth : Nat) → List String → Bool
  | _, [] => true
  | depth, name :: rest =>
    if name = ".." then
      match depth with
      | 0 => false
      | depth + 1 => staysInside depth rest
    else staysInside (depth + 1) rest

variable {rooted : Bool} {names inner : List String} {name : String}

theorem climb_name (h : name ≠ "..") (stack : List String) :
    climb rooted stack name = name :: stack := if_neg h

theorem climb_back (h : name ≠ "..") (outer : List String) :
    climb rooted (name :: outer) ".." = outer := if_neg h

theorem staysInside_name (h : name ≠ "..") (depth : Nat) (rest : List String) :
    staysInside depth (name :: rest) = staysInside (depth + 1) rest := by
  simp only [staysInside, if_neg h]

/-- Components that stay inside change nothing of the names before them. -/
theorem exists_foldl_climb (hstays : staysInside inner.length names = true)
    (hinner : ".." ∉ inner) (outer : List String) :
    ∃ below, names.foldl (climb rooted) (inner ++ outer) = below ++ outer ∧ ".." ∉ below := by
  induction names generalizing inner with
  | nil => exact ⟨inner, rfl, hinner⟩
  | cons name rest ih =>
    rw [List.foldl_cons]
    by_cases hdots : name = ".."
    · subst hdots
      cases inner with
      -- No name is left to take back, so the components would not stay inside.
      | nil => cases hstays
      | cons last inner =>
        have hlast : last ≠ ".." := Ne.symm (List.ne_of_not_mem_cons hinner)
        rw [List.cons_append, climb_back hlast]
        exact ih hstays (List.not_mem_of_not_mem_cons hinner)
    · rw [staysInside_name hdots] at hstays
      rw [climb_name hdots, ← List.cons_append]
      exact ih hstays (List.not_mem_cons_of_ne_of_not_mem (Ne.symm hdots) hinner)

/-- A name that is not among the components does not come up. -/
theorem not_mem_foldl_climb {fresh : String} (hfresh : fresh ∉ names) (hdots : fresh ≠ "..")
    {stack : List String} (hstack : fresh ∉ stack) : fresh ∉ names.foldl (climb rooted) stack := by
  induction names generalizing stack with
  | nil => exact hstack
  | cons name rest ih =>
    refine ih (List.not_mem_of_not_mem_cons hfresh) ?_
    by_cases hback : name = ".."
    · subst hback
      cases stack with
      | nil => cases rooted <;> simp [climb, hdots]
      | cons last outer =>
        by_cases hlast : last = ".."
        · simpa [climb, hlast, hdots] using hstack
        · rw [climb_back hlast]
          exact List.not_mem_of_not_mem_cons hstack
    · rw [climb_name hback]
      exact List.not_mem_cons_of_ne_of_not_mem (List.ne_of_not_mem_cons hfresh) hstack

/-- Components that do not stay inside take back the folder that they begin in. -/
theorem not_mem_of_not_staysInside {fresh : String}
    (hleaves : ¬ staysInside inner.length names = true) (hinner : ".." ∉ inner)
    (hfresh : fresh ∉ names) (hdots : fresh ≠ "..") (hapart : fresh ∉ inner) :
    fresh ∉ names.foldl (climb rooted) (inner ++ [fresh]) := by
  induction names generalizing inner with
  | nil => exact absurd rfl hleaves
  | cons name rest ih =>
    have hrest := List.not_mem_of_not_mem_cons hfresh
    rw [List.foldl_cons]
    by_cases hback : name = ".."
    · subst hback
      cases inner with
      | nil =>
        rw [List.nil_append, climb_back hdots]
        exact not_mem_foldl_climb hrest hdots List.not_mem_nil
      | cons last inner =>
        have hlast : last ≠ ".." := Ne.symm (List.ne_of_not_mem_cons hinner)
        rw [List.cons_append, climb_back hlast]
        exact ih hleaves (List.not_mem_of_not_mem_cons hinner) hrest
          (List.not_mem_of_not_mem_cons hapart)
    · rw [staysInside_name hback] at hleaves
      rw [climb_name hback, ← List.cons_append]
      exact ih hleaves (List.not_mem_cons_of_ne_of_not_mem (Ne.symm hback) hinner) hrest
        (List.not_mem_cons_of_ne_of_not_mem (List.ne_of_not_mem_cons hfresh) hapart)

/-- There is always one more name. -/
theorem exists_fresh (names : List String) : ∃ fresh, fresh ∉ names ∧ fresh ≠ ".." := by
  let letters := (names.map String.toList).flatten
  have hlist : (String.ofList ('a' :: letters)).toList = 'a' :: letters := String.toList_ofList
  refine ⟨String.ofList ('a' :: letters), fun hmem => ?_, fun hdots => ?_⟩
  · -- It would be a part of its own rest.
    have hpart : (String.ofList ('a' :: letters)).toList ∈ names.map String.toList :=
      List.mem_map_of_mem hmem
    have hlength := (List.sublist_flatten_of_mem hpart).length_le
    rw [hlist] at hlength
    exact absurd hlength (Nat.not_succ_le_self letters.length)
  · rw [hdots] at hlist
    cases hlist

/-- A path that begins nowhere is put after the folder. -/
theorem join_of_relative {base next : Path} (hrelative : next.slashes = 0) :
    base.join next = { base with components := base.components ++ next.components } :=
  if_pos hrelative

/-- **A path lies below whatever folder it is put after just when its components stay inside.** -/
theorem encloses_join_iff {next : Path} (hrelative : next.slashes = 0) :
    (∀ base : Path, base.resolved.Encloses (base.join next).resolved) ↔
      staysInside 0 next.components = true := by
  constructor
  · intro hencloses
    by_contra hstays
    -- A folder whose name does not come up again: if the double dots take it back, it is gone.
    obtain ⟨fresh, hfresh, hdots⟩ := exists_fresh next.components
    have hfolder := hencloses { components := [fresh] }
    obtain ⟨below, hbelow, -⟩ := hfolder.below
    rw [join_of_relative hrelative] at hbelow
    have hfirst : Path.resolved { components := [fresh] } = { components := [fresh] } := by
      rw [resolved, List.foldl_cons, climb_name hdots]
      rfl
    have hgone : fresh ∉
        (Path.resolved { components := [fresh] ++ next.components }).components := by
      rw [resolved, List.mem_reverse, List.foldl_append, List.foldl_cons, climb_name hdots]
      exact @not_mem_of_not_staysInside _ _ [] fresh hstays List.not_mem_nil hfresh hdots
        List.not_mem_nil
    rw [hbelow, hfirst] at hgone
    exact hgone List.mem_cons_self
  · intro hstays base
    rw [join_of_relative hrelative]
    refine ⟨rfl, ?_⟩
    obtain ⟨below, hbelow, hnames⟩ := @exists_foldl_climb (base.slashes ≠ 0) _ [] hstays
      List.not_mem_nil (base.components.foldl (climb (base.slashes ≠ 0)) [])
    refine ⟨below.reverse, ?_, fun hmem => hnames (List.mem_reverse.1 hmem)⟩
    rw [List.nil_append] at hbelow
    rw [resolved, List.foldl_append, hbelow, List.reverse_append]
    rfl

/-! ## Paths on a disk

  A disk knows no links, so following a path on it does with places what `climb` does with names,
  except that a double dot at the root stays there. -/

/-- One name further on a disk. -/
def turn (location : Location) (name : String) : Location :=
  if name = ".." then location.dropLast else location ++ [name]

theorem location_eq (path : Path) : path.location = path.components.foldl turn [] := rfl

/-- Components that stay inside lead to a place below the one that they begin at. The names after
    that one are given with the last one first. -/
theorem exists_foldl_turn (hstays : staysInside inner.length names = true) (base : Location) :
    ∃ below, names.foldl turn (base ++ inner.reverse) = base ++ below := by
  induction names generalizing inner with
  | nil => exact ⟨inner.reverse, rfl⟩
  | cons name rest ih =>
    rw [List.foldl_cons]
    by_cases hback : name = ".."
    · subst hback
      cases inner with
      | nil => cases hstays
      | cons last inner =>
        rw [List.reverse_cons, ← List.append_assoc, turn, if_pos rfl, List.dropLast_concat]
        exact ih hstays
    · rw [staysInside_name hback] at hstays
      rw [turn, if_neg hback, List.append_assoc, ← List.reverse_cons]
      exact ih hstays

end Path

/-- Following a path, if it can be followed, leads where its components lead. -/
theorem Disk.eq_of_follow {disk : Disk} {start place : Location} {names : List String}
    (h : disk.follow start names = .ok place) : place = names.foldl Path.turn start := by
  induction names generalizing start with
  | nil => exact (Except.ok.inj h).symm
  | cons name rest ih =>
    rw [follow] at h
    rw [List.foldl_cons, Path.turn]
    split at h
    next =>
      split at h
      next hback =>
        rw [if_pos hback]
        exact ih h
      next hname =>
        rw [if_neg hname]
        split at h
        next => cases h
        next => exact ih h
    next => cases h
    next => cases h

/-! ## Files of destinations

  Everything is put together for the destinations of a story that was read: their names are file
  names, and so relative paths. -/

/-- The name of a file does not begin at the root. -/
theorem slashes_ofString {id : String} (h : isFileName id.toList = true) :
    (Path.ofString id).slashes = 0 := by
  have hnone : id.toList.takeWhile (· = '/') = [] := by
    cases htext : id.toList with
    | nil => rfl
    | cons c rest =>
      rw [htext, isFileName, Bool.and_eq_true] at h
      have hslash : c ≠ '/' := by
        rintro rfl
        exact absurd h.1 (by decide)
      exact List.takeWhile_cons_of_neg (by simpa using hslash)
  rw [Path.ofString, hnone]
  rfl

/-- **The file of a destination lies below the folder of the stories just when its name stays
    inside.** Let a story be read from whatever text, and let one of its jumps or options, at any
    depth, lead to a file. If the components of the file's name never lead out of where they begin,
    then the path of the file lies below the folder of the stories, whatever that folder is, and so
    does the place on the disk that is read. If they do lead out, there is a folder that the path
    does not lie below. -/
theorem pathOf_inside_iff {grammar : Grammar} {fileId text : String} {story : Story}
    (hread : readStory grammar fileId text = .ok story) {id : String} {block : Option String}
    (hmem : .file id block ∈ story.destinations) :
    ((∀ library : Library, library.base.resolved.Encloses (library.pathOf id).resolved) ↔
        Path.staysInside 0 (Path.ofString id).components = true) ∧
      (Path.staysInside 0 (Path.ofString id).components = true →
        ∀ (library : Library) (place : Location),
          library.disk.follow [] (library.pathOf id).components = .ok place →
          ∃ below, place = library.base.location ++ below) := by
  have hrelative : (Path.ofString id).slashes = 0 :=
    slashes_ofString (Story.isNamed_of_readStory hread _ hmem).1
  refine ⟨?_, fun hstays library place hfollow => ?_⟩
  · rw [← Path.encloses_join_iff hrelative]
    exact ⟨fun h base => h { base }, fun h library => h library.base⟩
  · rw [Library.pathOf, Path.join_of_relative hrelative] at hfollow
    obtain ⟨below, hbelow⟩ :=
      @Path.exists_foldl_turn _ [] hstays library.base.location
    rw [List.reverse_nil, List.append_nil] at hbelow
    refine ⟨below, ?_⟩
    rw [Disk.eq_of_follow hfollow, List.foldl_append, ← Path.location_eq]
    exact hbelow

/-- A cave with two ways on: one to a file beside it, and one to a file outside. -/
def caveText : String := "@block hall\n@option In -> deep/../near:\n@jump ../far:\n@end\n"

theorem exists_caveStory : ∃ story, readStory {} "cave" caveText = .ok story ∧
    story.destinations = [.file "deep/../near" none, .file "../far" none] := by
  have hread : (readStory {} "cave" caveText).toOption.map Story.destinations =
      some [.file "deep/../near" none, .file "../far" none] := by
    decide +kernel
  cases hstory : readStory {} "cave" caveText with
  | error error =>
    rw [hstory] at hread
    cases hread
  | ok story =>
    rw [hstory] at hread
    exact ⟨story, rfl, Option.some.inj hread⟩

theorem pathOf_inside_iff_cave :
    ∃ story, readStory {} "cave" caveText = .ok story ∧
      .file "deep/../near" none ∈ story.destinations ∧
      ∀ library : Library,
        library.base.resolved.Encloses (library.pathOf "deep/../near").resolved := by
  obtain ⟨story, hread, hdestinations⟩ := exists_caveStory
  have hmem : .file "deep/../near" none ∈ story.destinations := by
    rw [hdestinations]
    exact List.mem_cons_self
  exact ⟨story, hread, hmem, (pathOf_inside_iff hread hmem).1.2 (by decide +kernel)⟩

/-- A folder of stories, with a file beside it. -/
def cliffs : Library where
  base := .ofString "stories"
  disk := { contents := [(["stories", "cave"], .text caveText), (["far"], .text "Far away.")] }
  onDemand := true

/-- **A story can lead out of the folder of the stories.** It is read, and its jump leads to a file
    whose path does not begin with the folder, and which is there to be read. -/
theorem pathOf_outside_cave :
    ∃ story, readStory cliffs.grammar "cave" caveText = .ok story ∧
      .file "../far" none ∈ story.destinations ∧
      ¬ cliffs.base.resolved.components <+: (cliffs.pathOf "../far").resolved.components ∧
      cliffs.disk.read (cliffs.pathOf "../far") = .ok "Far away." := by
  obtain ⟨story, hread, hdestinations⟩ := exists_caveStory
  refine ⟨story, hread, ?_, by decide +kernel, by decide +kernel⟩
  rw [hdestinations]
  exact List.mem_cons_of_mem _ List.mem_cons_self

end Gamebook
