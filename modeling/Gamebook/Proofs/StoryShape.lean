/-
  The shape of the stories that are read.

  The types of stories admit much that no file says: a menu without options, two menus with nothing
  between them, an entry block that there is none of, keywords that name no word list.  A story that
  was read is well formed (`Story.IsWellFormed`), whatever its text and the grammar it was read by:

  1. **Leaves**: what the readers of single lines give back.  Names are names, labels and keywords
     are trimmed and not empty, and conditions compare by comparisons.

  2. **Rows of nodes**: no two menus stand next to each other, in a block or in a branch
     (`MenusApart`).  A menu is made of all the options in a row, so what comes after it begins with
     another line; the induction over the items of a block carries along that nodes which begin with
     a menu come from lines which begin with an option.

  3. **The file**: blocks have different names and stand in the order of their lines, and the entry
     block is the one that is declared, or the first.  So asking for a file without naming a block
     fails only if the file has no blocks.
-/
import Gamebook.Proofs.DescribedCondition
import Gamebook.Proofs.TextPieces
import Gamebook.Library
import Mathlib.Data.List.Chain
import Mathlib.Data.List.Nodup

namespace Gamebook

open Markup Text

/-! ## Well-formed nodes

  Each notion says of a node, a block or a story what its type leaves open.  None of them mentions a
  reader. -/

/-- The text is not empty, and no blank stands at either end of it. -/
def IsTrimmed (text : String) : Prop := text.toList ≠ [] ∧ trim text.toList = text.toList

/-- The text is trimmed, and what stands behind an `@` in front of it is the name of a word list. -/
def IsKeyword (keyword : String) : Prop :=
  IsTrimmed keyword ∧
    ∀ name : String, keyword = "@" ++ name → name ∈ WordList.named.map Prod.fst

/-- A choice has a label, leads to something with a name, and is guarded by a condition that can be
    written, if at all. -/
structure Choice.IsWellFormed (choice : Choice) : Prop where
  label : IsTrimmed choice.label
  keywords : ∀ keyword ∈ choice.keywords, IsKeyword keyword
  destination : choice.destination.IsNamed
  guard : ∀ guard, choice.guard = some guard → guard.IsWritable

/-- The node is a menu. -/
def Node.IsMenu : Node → Prop
  | .menu _ => True
  | _ => False

/-- No two menus stand next to each other. -/
def MenusApart (nodes : List Node) : Prop :=
  nodes.IsChain fun node next => ¬ (node.IsMenu ∧ next.IsMenu)

/-- The node is well formed, and so is what stands in its branches. -/
inductive Node.IsWellFormed : Node → Prop
  | text (run : TextRun) : IsWellFormed (.text run)
  | change {change : StateChange} (hmeaning : change.HasMeaning) : IsWellFormed (.change change)
  | jump {destination : Destination} (hnamed : destination.IsNamed) :
      IsWellFormed (.jump destination)
  | menu {choices : List Choice} (hsome : choices ≠ [])
      (hchoices : ∀ choice ∈ choices, choice.IsWellFormed) : IsWellFormed (.menu choices)
  | conditional {condition : Condition} {thenNodes elseNodes : List Node}
      (hcondition : condition.IsWritable)
      (hthenApart : MenusApart thenNodes) (hthen : ∀ node ∈ thenNodes, IsWellFormed node)
      (helseApart : MenusApart elseNodes) (helse : ∀ node ∈ elseNodes, IsWellFormed node) :
      IsWellFormed (.conditional condition thenNodes elseNodes)

/-- The block has a name, and its nodes are well formed. -/
structure Block.IsWellFormed (block : Block) : Prop where
  name : isName block.name.toList = true
  apart : MenusApart block.nodes
  nodes : ∀ node ∈ block.nodes, node.IsWellFormed

/-- Every block is found under its own name, and under no other. The blocks are well formed and
    stand in the order of their lines, and one of them is the entry, if there are any. -/
structure Story.IsWellFormed (story : Story) : Prop where
  keys : ∀ name block, story.block? name = some block ↔
    block ∈ story.blocks ∧ block.name = name
  blocks : ∀ block ∈ story.blocks, block.IsWellFormed
  lines : story.blocks.Pairwise fun block later => block.line < later.line
  entry_none : story.entry = none ↔ story.blocks = []
  entry_some : ∀ name, story.entry = some name → ∃ block ∈ story.blocks, block.name = name

/-- The block is the one that is declared as the entry, or the first one if none is. -/
def Story.BeginsWith (story : Story) (declared : Option String) (block : Block) : Prop :=
  match declared with
  | some name => block ∈ story.blocks ∧ block.name = name
  | none => story.blocks.head? = some block

namespace Markup

/-! ## Leaves

  What the readers of single lines make sure of, from the smallest parts upwards. -/

theorem isTrimmed_ofList {text : List Char} (hsome : (trim text).isEmpty = false) :
    IsTrimmed (String.ofList (trim text)) := by
  rw [IsTrimmed, String.toList_ofList]
  exact ⟨fun h => Bool.false_ne_true (hsome.symm.trans (List.isEmpty_iff.2 h)), trim_trim text⟩

/-- A name is among those of the word lists just if one of them has it. -/
theorem mem_named_iff {name : String} :
    name ∈ WordList.named.map Prod.fst ↔ WordList.isName name = true := by
  rw [WordList.isName, List.lookup_isSome_iff, List.mem_map]
  constructor
  · rintro ⟨entry, hentry, rfl⟩
    exact ⟨entry, hentry, beq_self_eq_true entry.1⟩
  · rintro ⟨entry, hentry, hname⟩
    exact ⟨entry, hentry, (eq_of_beq hname).symm⟩

/-- A part of a list of keywords that the reader accepts is a keyword. -/
theorem isKeyword_of_part {part : List Char} (hsome : (trim part).isEmpty = false)
    (hlist : (decide ((trim part).head? = some directiveMark) &&
      !WordList.isName (String.ofList ((trim part).drop 1))) = false) :
    IsKeyword (String.ofList (trim part)) := by
  refine ⟨isTrimmed_ofList hsome, fun name hname => mem_named_iff.2 ?_⟩
  have hchars : trim part = directiveMark :: name.toList := by
    have h := congrArg String.toList hname
    rwa [String.toList_ofList, String.toList_append] at h
  rw [hchars] at hlist
  simpa [String.ofList_toList] using hlist

/-- All parts of a list that was read are keywords. -/
theorem isKeyword_of_readKeywords {list : List Char} {column : Nat} {parts : List (List Char)}
    {keywords : List String} (h : readKeywords list column parts = .ok keywords) :
    ∀ keyword ∈ keywords, IsKeyword keyword := by
  induction parts generalizing column keywords with
  | nil => cases h; exact nofun
  | cons part rest ih =>
    simp only [readKeywords] at h
    split at h
    next => cases h
    next hsome =>
      split at h
      next => cases h
      next hlist =>
        obtain ⟨others, hothers, rfl⟩ := map_eq_ok_iff.1 h
        rw [Bool.not_eq_true] at hsome hlist
        exact List.forall_mem_cons.2 ⟨isKeyword_of_part hsome hlist, ih hothers⟩

/-- The keywords behind a label are keywords, if there are any. -/
theorem isKeyword_of_readLabel {column : Nat} {text label : List Char} {keywords : List String}
    (h : readLabel column text = .ok (label, keywords)) :
    ∀ keyword ∈ keywords, IsKeyword keyword := by
  simp only [readLabel] at h
  split at h
  next =>
    obtain ⟨read, hread, heq⟩ := map_eq_ok_iff.1 h
    cases heq
    exact isKeyword_of_readKeywords hread
  next => cases h; exact nofun

/-- **A choice that was read is well formed**, because the parts that it comes from are. -/
theorem isWellFormed_of_readOption {column : Nat} {arguments : List Char} {choice : Choice}
    (h : readOption column arguments = .ok choice) : choice.IsWellFormed := by
  obtain ⟨_, _, label, -, hlabel, hshown, hsome, ⟨_, _, hdestination⟩, hguards⟩ :=
    parts_of_readOption h
  refine ⟨?_, isKeyword_of_readLabel hlabel, isNamed_of_readDestination hdestination,
    fun guard hguard => ?_⟩
  · rw [hshown]
    exact isTrimmed_ofList hsome
  · obtain ⟨_, _, hcondition⟩ := hguards guard hguard
    exact isWritable_of_readCondition hcondition

theorem endLine_ne_nil (runs : List TextRun) : endLine runs ≠ [] := by
  match runs with
  | [] => exact List.cons_ne_nil _ _
  | [run] => exact List.cons_ne_nil _ _
  | run :: next :: rest => exact List.cons_ne_nil _ _

/-- A narrative line has at least one run. -/
theorem runs_ne_nil_of_readNarrative {grammar : Grammar} {line : List Char} {runs : List TextRun}
    (h : readNarrative grammar line = .ok runs) : runs ≠ [] := by
  obtain ⟨inner, -, rfl⟩ := map_eq_ok_iff.1 h
  exact endLine_ne_nil inner

/-! ## Rows of nodes

  The items of a block are made one after the other, and a menu takes all options that stand in a
  row.  To know that no second menu follows, it must be known what the rest begins with, so
  `Items.Shape` says this as well. -/

theorem menusApart_cons {node : Node} {nodes : List Node} (hnode : ¬ node.IsMenu)
    (h : MenusApart nodes) : MenusApart (node :: nodes) :=
  List.isChain_cons.2 ⟨fun _ _ hboth => hnode hboth.1, h⟩

/-- A menu may stand in front of nodes that begin with none. -/
theorem menusApart_menu_cons {choices : List Choice} {nodes : List Node}
    (hnext : ∀ node ∈ nodes.head?, ¬ node.IsMenu) (h : MenusApart nodes) :
    MenusApart (.menu choices :: nodes) :=
  List.isChain_cons.2 ⟨fun node hnode hboth => hnext node hnode hboth.2, h⟩

theorem menusApart_texts_append {runs : List TextRun} {nodes : List Node}
    (h : MenusApart nodes) : MenusApart (runs.map .text ++ nodes) := by
  induction runs with
  | nil => exact h
  | cons run rest ih => exact menusApart_cons id ih

/-- The nodes of a row of lines: they are well formed with their menus apart, and when a menu comes
    first the lines begin with an option. -/
structure Items.Shape (grammar : Grammar) (lines : List (List Char)) (nodes : List Node) :
    Prop where
  wellFormed : ∀ node ∈ nodes, node.IsWellFormed
  apart : MenusApart nodes
  head : ∀ node ∈ nodes.head?, node.IsMenu → BeginsWithOption grammar lines

/-- A node that is no menu, in front of a row. -/
theorem Items.Shape.cons {grammar : Grammar} {lines whole : List (List Char)} {node : Node}
    {nodes : List Node} (h : Items.Shape grammar lines nodes) (hnode : node.IsWellFormed)
    (hother : ¬ node.IsMenu) : Items.Shape grammar whole (node :: nodes) where
  wellFormed := List.forall_mem_cons.2 ⟨hnode, h.wellFormed⟩
  apart := menusApart_cons hother h.apart
  head := by
    intro first hfirst hmenu
    cases hfirst
    exact absurd hmenu hother

/-- The runs of a narrative line, in front of a row. -/
theorem Items.Shape.texts {grammar : Grammar} {lines whole : List (List Char)}
    {runs : List TextRun} {nodes : List Node} (h : Items.Shape grammar lines nodes)
    (hsome : runs ≠ []) : Items.Shape grammar whole (runs.map .text ++ nodes) where
  wellFormed := by
    refine List.forall_mem_append.2 ⟨fun node hmem => ?_, h.wellFormed⟩
    obtain ⟨run, -, rfl⟩ := List.mem_map.1 hmem
    exact .text run
  apart := menusApart_texts_append h.apart
  head := by
    intro first hfirst hmenu
    -- A narrative line has a run, so the row begins with a text.
    obtain ⟨run, rest, rfl⟩ := List.exists_cons_of_ne_nil hsome
    cases hfirst
    exact absurd hmenu id

/-- A row of options is well formed, and begins with an option. -/
theorem menu_of_options {grammar : Grammar} {lines : List (List Char)} {choices : List Choice}
    (hlines : List.Forall₂ (fun line choice => Says grammar line (.option choice)) lines choices)
    (hsome : choices ≠ []) (rest : List (List Char)) :
    (Node.menu choices).IsWellFormed ∧ BeginsWithOption grammar (lines ++ rest) := by
  constructor
  · refine .menu hsome fun choice hmem => ?_
    obtain ⟨line, -, hline⟩ := exists_line_of_mem hlines choice hmem
    cases hline with
    | option _ hread => exact isWellFormed_of_readOption hread
  · cases hlines with
    | nil => exact absurd rfl hsome
    | cons hline _ => exact ⟨_, _, rfl, hline⟩

/-- **The items of a block or a branch are well formed at every depth.** -/
theorem Items.shape {grammar : Grammar} {lines : List (List Char)} {nodes : List Node}
    (h : Items grammar lines nodes) : Items.Shape grammar lines nodes := by
  induction h with
  | nil => exact ⟨nofun, .nil, nofun⟩
  | narrative hline _ ih =>
    cases hline with
    | narrative _ hread => exact ih.texts (runs_ne_nil_of_readNarrative hread)
  | change hline _ ih =>
    cases hline with
    | change _ hread => exact ih.cons (.change (hasMeaning_of_readChange hread)) id
  | jump hline _ ih =>
    cases hline with
    | jump _ hread => exact ih.cons (.jump (isNamed_of_readDestination hread)) id
  | menu hlines hsome hmaximal _ ih =>
    obtain ⟨hmenu, hbegins⟩ := menu_of_options hlines hsome _
    exact
      { wellFormed := List.forall_mem_cons.2 ⟨hmenu, ih.wellFormed⟩
        -- Nothing that the row could go on with follows it, so no second menu does.
        apart := menusApart_menu_cons
          (fun node hnode hnext => hmaximal (ih.head node hnode hnext)) ih.apart
        head := fun _ _ _ => hbegins }
  | conditional hopener _ _ _ ihbody ihrest =>
    cases hopener with
    | openIf _ hread =>
      exact ihrest.cons (.conditional (isWritable_of_readCondition hread) ihbody.apart
        ihbody.wellFormed .nil nofun) id
  | conditionalElse hopener _ _ _ _ _ ihbody ihothers ihrest =>
    cases hopener with
    | openIf _ hread =>
      exact ihrest.cons (.conditional (isWritable_of_readCondition hread) ihbody.apart
        ihbody.wellFormed ihothers.apart ihothers.wellFormed) id

/-! ## The file

  The parts of a file come with the numbers of their lines, which only grow. -/

/-- The blocks of a file are well formed. -/
theorem Parts.isWellFormed {grammar : Grammar} {number : Nat} {lines : List (List Char)}
    {blocks : List Block} {entries : List String} (h : Parts grammar number lines blocks entries) :
    ∀ block ∈ blocks, block.IsWellFormed := by
  induction h with
  | nil => exact nofun
  | idle _ _ ih => exact ih
  | entry _ _ ih => exact ih
  | block hopener hbody _ _ ih =>
    refine List.forall_mem_cons.2 ⟨⟨?_, hbody.shape.apart, hbody.shape.wellFormed⟩, ih⟩
    cases hopener with
    | block _ _ hname => rwa [String.toList_ofList]

/-- The blocks of the lines from `number` on begin there or further down. -/
theorem Parts.le_line {grammar : Grammar} {number : Nat} {lines : List (List Char)}
    {blocks : List Block} {entries : List String} (h : Parts grammar number lines blocks entries) :
    ∀ block ∈ blocks, number ≤ block.line := by
  induction h with
  | nil => exact nofun
  | idle _ _ ih => exact fun block hmem => Nat.le_of_succ_le (ih block hmem)
  | entry _ _ ih => exact fun block hmem => Nat.le_of_succ_le (ih block hmem)
  | block _ _ _ _ ih =>
    refine List.forall_mem_cons.2 ⟨Nat.le_refl _, fun block hmem => ?_⟩
    have hlater := ih block hmem
    omega

/-- They stand in the order of their lines. -/
theorem Parts.pairwise_line {grammar : Grammar} {number : Nat} {lines : List (List Char)}
    {blocks : List Block} {entries : List String} (h : Parts grammar number lines blocks entries) :
    blocks.Pairwise fun block later => block.line < later.line := by
  induction h with
  | nil => exact .nil
  | idle _ _ ih => exact ih
  | entry _ _ ih => exact ih
  | block _ _ _ hrest ih =>
    refine List.pairwise_cons.2 ⟨fun later hmem => ?_, ih⟩
    have hlater := hrest.le_line later hmem
    dsimp only
    omega

end Markup

/-! ## Blocks by their names

  A block is looked up by the first one with its name.  Where names differ, the first one is the
  only one. -/

/-- Where names are different, a block is found under its own name. -/
theorem Story.block?_eq_some_iff {story : Story} (h : (story.blocks.map Block.name).Nodup)
    {name : String} {block : Block} :
    story.block? name = some block ↔ block ∈ story.blocks ∧ block.name = name := by
  have hname : ∀ found, story.block? name = some found → found.name = name :=
    fun found hfound => by simpa using List.find?_some hfound
  constructor
  · intro hfound
    exact ⟨List.mem_of_find?_eq_some hfound, hname block hfound⟩
  · rintro ⟨hmem, hblock⟩
    cases hfound : story.block? name with
    | none => exact absurd hblock (by simpa using List.find?_eq_none.1 hfound block hmem)
    -- Something is found, and having the same name it is the same block.
    | some found =>
      have hsame : found.name = block.name := (hname found hfound).trans hblock.symm
      rw [List.inj_on_of_nodup_map h (List.mem_of_find?_eq_some hfound) hmem hsame]

/-- The block that the entry names is the declared one, or the first. -/
theorem Story.beginsWith_of_entry {story : Story} {declared : Option String} {block : Block}
    (hnames : (story.blocks.map Block.name).Nodup) (hmem : block ∈ story.blocks)
    (hentry : declared.or (story.blocks.head?.map Block.name) = some block.name) :
    story.BeginsWith declared block := by
  cases declared with
  | some name => exact ⟨hmem, (Option.some.inj hentry).symm⟩
  | none =>
    obtain ⟨first, hfirst, hname⟩ := Option.map_eq_some_iff.1 hentry
    show story.blocks.head? = some block
    rw [hfirst, List.inj_on_of_nodup_map hnames (List.mem_of_head? hfirst) hmem hname]

/-- **The entry of a loaded file.** Asking for it is answered from the story: with an error just
    when there are no blocks, and with the entry block otherwise. -/
theorem Library.resolve_entry {library : Library} {id : String} {story : Story}
    (hstory : library.stories.get? id = some story) (hform : story.IsWellFormed)
    (currentFile : String) :
    ∃ result, library.resolve (.file id none) currentFile = .ok { result, library } ∧
      ((∃ error, result = .error error) ↔ story.blocks = []) ∧
      ∀ scene, result = .ok scene → scene.fileId = id ∧ scene.block ∈ story.blocks ∧
        story.entry = some scene.block.name := by
  have hget : library.get id = .ok { result := .ok story, library } := by
    rw [Library.get, hstory]
  refine ⟨blockOf story id none, ?_, ?_⟩
  · show library.find id none = _
    rw [Library.find, hget]
    rfl
  · cases hentry : story.entry with
    | none =>
      have hnone : blockOf story id none = .error (.noEntry id) := by
        rw [blockOf, hentry]
        rfl
      rw [hnone]
      refine ⟨⟨fun _ => hform.entry_none.1 hentry, fun _ => ⟨_, rfl⟩⟩, fun scene hscene => ?_⟩
      cases hscene
    | some name =>
      obtain ⟨block, hmem, hname⟩ := hform.entry_some name hentry
      have hsome : blockOf story id none = .ok ⟨id, block⟩ := by
        have hfound := (hform.keys name block).2 ⟨hmem, hname⟩
        simp only [blockOf, hentry, Option.none_or, hfound]
      rw [hsome]
      refine ⟨⟨?_, fun hempty => ?_⟩, fun scene hscene => ?_⟩
      · rintro ⟨error, herror⟩
        cases herror
      · rw [hempty] at hmem
        cases hmem
      · cases hscene
        exact ⟨rfl, hmem, congrArg some hname.symm⟩

namespace Markup

/-- The story of a file is well formed. -/
theorem IsStory.isWellFormed {grammar : Grammar} {fileId : String} {lines : List (List Char)}
    {story : Story} (h : IsStory grammar fileId lines story) : story.IsWellFormed := by
  obtain ⟨blocks, entries, hparts, hnames, -, hdeclared, rfl⟩ := h
  refine ⟨fun _ _ => Story.block?_eq_some_iff hnames, hparts.isWellFormed, hparts.pairwise_line,
    ?_, fun name hname => ?_⟩
  · show entries.head?.or (blocks.head?.map Block.name) = none ↔ blocks = []
    rw [Option.or_eq_none_iff, Option.map_eq_none_iff, List.head?_eq_none_iff,
      List.head?_eq_none_iff]
    refine ⟨And.right, fun hblocks => ⟨List.eq_nil_iff_forall_not_mem.2 fun entry hmem => ?_,
      hblocks⟩⟩
    -- What is declared is a block, so without blocks nothing is declared.
    have hblock := hdeclared entry hmem
    rw [hblocks] at hblock
    cases hblock
  · have hentry : entries.head?.or (blocks.head?.map Block.name) = some name := hname
    -- The entry is the one that is declared, or the first of the blocks.
    rcases Option.or_eq_some_iff.1 hentry with hhead | ⟨-, hfirst⟩
    · exact List.mem_map.1 (hdeclared name (List.mem_of_head? hhead))
    · obtain ⟨block, hblock, rfl⟩ := Option.map_eq_some_iff.1 hfirst
      exact ⟨block, List.mem_of_head? hblock, rfl⟩

/-- **Every story that is read is well formed**, whatever its text and the grammar. Its blocks are
    found under their names, which are names, and stand in the order of their lines; there is an
    entry just if there are blocks, and it is one of them; and the nodes are well formed at every
    depth. So once it is loaded, its file without a block leads to the block that an `@entry` line
    of the text declares, or to the first block if there is no such line, and to an error only if
    there are no blocks. -/
theorem isWellFormed_of_readStory {grammar : Grammar} {fileId text : String} {story : Story}
    (h : readStory grammar fileId text = .ok story) :
    story.IsWellFormed ∧
      ∃ declared : Option String,
        Parts grammar 1 (linesOf text.toList) story.blocks declared.toList ∧
        ∀ (library : Library) (id currentFile : String), library.stories.get? id = some story →
          ∃ result, library.resolve (.file id none) currentFile = .ok { result, library } ∧
            ((∃ error, result = .error error) ↔ story.blocks = []) ∧
            ∀ scene, result = .ok scene →
              scene.fileId = id ∧ story.BeginsWith declared scene.block := by
  have hstory := isStory_of_readStory h
  have hform := hstory.isWellFormed
  obtain ⟨blocks, entries, hparts, hnames, honce, -, rfl⟩ := hstory
  have hlist : entries.head?.toList = entries := by
    match entries, honce with
    | [], _ => rfl
    | [entry], _ => rfl
  refine ⟨hform, entries.head?, by rwa [hlist], fun library id currentFile hloaded => ?_⟩
  obtain ⟨result, hresolve, herror, hscene⟩ :=
    Library.resolve_entry hloaded hform currentFile
  refine ⟨result, hresolve, herror, fun scene hresult => ?_⟩
  obtain ⟨hfile, hmem, hentry⟩ := hscene scene hresult
  exact ⟨hfile, Story.beginsWith_of_entry hnames hmem hentry⟩

/-- A gate with a menu in a branch, which the file begins with although it stands second. -/
def moorText : String :=
  "@entry gate\n@block moor\nMist.\n@end\n@block gate\n@if counter:coins >= 2\n" ++
  "@option Pay [@AFFIRMATIVES, coin] -> moor\n@option Wait -> gate if flag:rain\n@else\n" ++
  "@incr counter:coins\n@endif\n@option Leave -> moor\n@end\n"

theorem isWellFormed_of_readStory_moor :
    ∃ story, readStory {} "gate" moorText = .ok story ∧
      story.blockNames = ["moor", "gate"] ∧ story.entry = some "gate" ∧ story.IsWellFormed := by
  have hread : (readStory {} "gate" moorText).toOption.map
      (fun story => (story.blockNames, story.entry)) = some (["moor", "gate"], some "gate") := by
    decide +kernel
  cases hstory : readStory {} "gate" moorText with
  | error error =>
    rw [hstory] at hread
    cases hread
  | ok story =>
    rw [hstory] at hread
    obtain ⟨hnames, hentry⟩ := Prod.mk.inj (Option.some.inj hread)
    exact ⟨story, rfl, hnames, hentry, (isWellFormed_of_readStory hstory).1⟩

end Markup
end Gamebook
