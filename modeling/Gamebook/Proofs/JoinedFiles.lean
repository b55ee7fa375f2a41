/-
  Story files one after the other.

  If two texts are accepted, and their blocks have different names, then the one followed by the
  other is accepted too, as the blocks of the first and then the blocks of the second.  Nothing that
  the reader has kept of the first text has a say in how it reads the second, apart from the lines
  that it has counted.  On the side of the grammar this is plain: the parts of a file are a list,
  and so it is shown there, and taken over to the reader by `readStory_eq_ok_iff`.

  1. **Lines** (`linesOf_append`): the lines of the two texts are those of the first and then those
     of the second, if the first is ended.
  2. **Parts** (`Parts.movedDown`, `Parts.append`): a file may begin further down, and go on with
     another, by induction on its parts.
  3. **Entries** (`Parts.mem_entries_iff`): the entry of a file is the one that a line of it
     declares as the reader would outside of the blocks.  No line inside a block looks like that
     (`Items.says_of_mem`).

  `readStory_append` puts them together.
-/
import Gamebook.Proofs.BlockReading
import Gamebook.Proofs.LineBreaks

namespace Gamebook.Markup

open Gamebook.Text

/-! ## Lines

  A line break of two characters could be torn apart where the texts meet; that the first text ends
  with a line feed rules this out.  A byte order mark is dropped only in front of a whole text, so
  the second text must not have one. -/

/-- A line feed divides what is in front of it from what is behind it, and takes with it a carriage
    return directly in front. -/
theorem exists_unifyBreaks_append (front : List Char) :
    ∃ unified, ∀ rest,
      unifyBreaks (front ++ '\n' :: rest) = unified ++ '\n' :: unifyBreaks rest := by
  have hfeed : ∀ rest, unifyBreaks ('\n' :: rest) = '\n' :: unifyBreaks rest :=
    unifyBreaks_cons_of_ne (by decide)
  fun_induction unifyBreaks front with
  | case1 => exact ⟨[], hfeed⟩
  | case2 front ih =>
    obtain ⟨unified, hunified⟩ := ih
    exact ⟨'\n' :: unified, fun rest => congrArg ('\n' :: ·) (hunified rest)⟩
  -- A carriage return is a break by itself, unless the line feed behind it belongs to it.
  | case3 front hother ih =>
    obtain ⟨unified, hunified⟩ := ih
    cases front with
    | nil => exact ⟨[], fun rest => rfl⟩
    | cons c front =>
      refine ⟨'\n' :: unified, fun rest => ?_⟩
      rw [List.cons_append, List.cons_append, unifyBreaks, ← List.cons_append, hunified,
        List.cons_append]
      rintro others heq
      exact hother front (by rw [(List.cons.inj heq).1])
  | case4 c front _ hother ih =>
    obtain ⟨unified, hunified⟩ := ih
    refine ⟨c :: unified, fun rest => ?_⟩
    rw [List.cons_append, unifyBreaks_cons_of_ne fun hc => hother hc, hunified, List.cons_append]

theorem dropEmptyEnd_append {later : List (List Char)} (h : later ≠ [])
    (earlier : List (List Char)) :
    dropEmptyEnd (earlier ++ later) = earlier ++ dropEmptyEnd later := by
  rw [dropEmptyEnd, dropEmptyEnd, List.getLast?_append_of_ne_nil _ h,
    List.dropLast_append_of_ne_nil h]
  split <;> rfl

/-- **The lines of two texts are those of the first and those of the second**, where the first is
    ended with a line feed and no byte order mark stands in front of the second. -/
theorem linesOf_append {first second : List Char}
    (hended : first = [] ∨ first.getLast? = some '\n')
    (hmark : second.head? ≠ some byteOrderMark) :
    linesOf (first ++ second) = linesOf first ++ linesOf second := by
  have hsecond : second.dropWhile (· = byteOrderMark) = second := by
    cases second with
    | nil => rfl
    | cons c rest =>
      refine List.dropWhile_cons_of_neg fun hc => hmark ?_
      rw [List.head?_cons, of_decide_eq_true hc]
  rcases hended with rfl | hended
  · rfl
  · obtain ⟨front, rfl⟩ := List.getLast?_eq_some_iff.1 hended
    -- Marks in front of the first text are dropped with the second text behind it as well.
    have hdrop : ∀ rest, (front ++ '\n' :: rest).dropWhile (· = byteOrderMark) =
        front.dropWhile (· = byteOrderMark) ++ '\n' :: rest := by
      intro rest
      rw [List.dropWhile_append]
      split
      next hempty =>
        rw [List.isEmpty_iff.1 hempty, List.dropWhile_cons_of_neg (by decide), List.nil_append]
      next => rfl
    have hcut : decide ('\n' = '\n') = true := decide_eq_true rfl
    obtain ⟨unified, hunified⟩ :=
      exists_unifyBreaks_append (front.dropWhile (· = byteOrderMark))
    have hfirst : linesOf (front ++ ['\n']) = splitWhere (· = '\n') unified := by
      rw [linesOf, hdrop, hunified, splitWhere_append_mark hcut]
      exact dropEmptyEnd_concat_nil _
    have hrest : splitWhere (· = '\n') (unifyBreaks second) ≠ [] := by
      rw [splitWhere_eq]
      exact List.cons_ne_nil _ _
    rw [hfirst, linesOf, linesOf, hsecond, List.append_assoc, List.singleton_append, hdrop,
      hunified, splitWhere_append_mark hcut, dropEmptyEnd_append hrest]

end Gamebook.Markup

namespace Gamebook

/-- The block in a file in which it begins so many lines further down. -/
def Block.movedDown (count : Nat) (block : Block) : Block :=
  { block with line := block.line + count }

namespace Markup

/-! ## Parts

  The number of a line is used for one thing only: it is kept with the block that begins there. -/

variable {grammar : Grammar} {number : Nat} {lines : List (List Char)} {blocks : List Block}
  {entries : List String}

/-- A file may begin further down. -/
theorem Parts.movedDown (h : Parts grammar number lines blocks entries) (count : Nat) :
    Parts grammar (number + count) lines (blocks.map (Block.movedDown count)) entries := by
  induction h with
  | nil => exact .nil
  | @idle number _ _ _ _ hline _ ih =>
    rw [Nat.add_right_comm] at ih
    exact .idle hline ih
  | @entry number _ _ _ _ _ _ hline _ ih =>
    rw [Nat.add_right_comm] at ih
    exact .entry hline ih
  | @block number _ _ _ _ body _ _ _ _ hopener hbody hcloser _ ih =>
    rw [show number + body.length + 2 + count = number + count + body.length + 2 by omega] at ih
    exact .block hopener hbody hcloser ih

/-- A file may go on with another. -/
theorem Parts.append (h : Parts grammar number lines blocks entries) {later : List (List Char)}
    {others : List Block} {names : List String}
    (hlater : Parts grammar (number + lines.length) later others names) :
    Parts grammar number (lines ++ later) (blocks ++ others) (entries ++ names) := by
  induction h with
  | nil => exact hlater
  | @idle number _ rest _ _ hline _ ih =>
    rw [List.length_cons, show number + (rest.length + 1) = number + 1 + rest.length by omega]
      at hlater
    exact .idle hline (ih hlater)
  | @entry number _ _ _ rest _ _ hline _ ih =>
    rw [List.length_cons, show number + (rest.length + 1) = number + 1 + rest.length by omega]
      at hlater
    exact .entry hline (ih hlater)
  | @block number _ _ _ _ body rest _ _ _ hopener hbody hcloser _ ih =>
    rw [List.length_append, List.length_cons, List.length_cons,
      show number + (body.length + 1 + (rest.length + 1)) =
        number + body.length + 2 + rest.length by omega] at hlater
    rw [List.append_assoc, List.cons_append]
    exact .block hopener hbody hcloser (ih hlater)

/-! ## Entries

  Which block a story begins with is settled at the end of a file, so it has to be known whether any
  line of either text declares it.  A line inside a block may have the same words as one that
  declares an entry outside of it, but then the file is not accepted. -/

/-- A line of the text declares the entry block. -/
def Declares (grammar : Grammar) (text : String) (name : String) : Prop :=
  ∃ line ∈ linesOf text.toList, ∃ directive, Announces grammar line (.entry name directive)

theorem Announces.says_entry {line : List Char} {name : String} {directive : Directive}
    (h : Announces grammar line (.entry name directive)) : Says grammar line .entry := by
  cases h with
  | entry _ hline _ => exact .entry hline

/-- A line is one heading at most. -/
theorem Announces.unique {line : List Char} {heading other : Heading}
    (h : Announces grammar line heading) (hother : Announces grammar line other) :
    heading = other :=
  Option.some.inj (Except.ok.inj
    ((heading_read_of_announces h).symm.trans (heading_read_of_announces hother)))

/-- **The entries of a file are those that its lines declare.** -/
theorem Parts.mem_entries_iff (h : Parts grammar number lines blocks entries) {name : String} :
    name ∈ entries ↔
      ∃ line ∈ lines, ∃ directive, Announces grammar line (.entry name directive) := by
  -- No line inside of a block that is accepted declares an entry.
  have hinside : ∀ {line statement directive}, Says grammar line statement →
      statement ≠ .entry → ¬ Announces grammar line (.entry name directive) :=
    fun hline hother hentry => hother (hline.unique hentry.says_entry)
  induction h with
  | nil => simp
  | idle hline _ ih =>
    refine ih.trans ?_
    rw [List.exists_mem_cons_iff]
    refine (or_iff_right ?_).symm
    rintro ⟨directive, hentry⟩
    cases hentry with
    | entry hbusy _ _ => exact hbusy hline
  | @entry _ _ declared directive _ _ _ hline _ ih =>
    rw [List.mem_cons, List.exists_mem_cons_iff]
    refine or_congr ⟨?_, ?_⟩ ih
    · rintro rfl
      exact ⟨directive, hline⟩
    · rintro ⟨other, hother⟩
      cases hline.unique hother
      rfl
  | @block _ opener closer _ _ body rest _ _ _ hopener hbody hcloser _ ih =>
    have hopens : ¬ ∃ directive, Announces grammar opener (.entry name directive) := by
      rintro ⟨directive, hentry⟩
      cases hopener.unique hentry
    have hcloses : ¬ ∃ directive, Announces grammar closer (.entry name directive) :=
      fun ⟨_, hentry⟩ => hinside hcloser (by simp) hentry
    have hitems : ¬ ∃ line ∈ body, ∃ directive, Announces grammar line (.entry name directive) := by
      rintro ⟨line, hmem, directive, hentry⟩
      obtain ⟨statement, hline, hstays⟩ := hbody.says_of_mem line hmem
      refine hinside hline ?_ hentry
      rintro rfl
      cases hstays
    refine ih.trans ?_
    rw [List.cons_append, List.exists_mem_cons_iff, or_iff_right hopens]
    simp only [List.mem_append, or_and_right, exists_or]
    rw [or_iff_right hitems, List.exists_mem_cons_iff, or_iff_right hcloses]

/-! ## Whole files

  The names of all blocks differ, at most one entry is declared, and it names a block: the three
  conditions on a whole file hold for the two together, each by what is assumed and by what holds
  for either. -/

/-- **Story files can be put one after the other.** Of two texts that are accepted let the first be
    empty or ended with a line feed, let no byte order mark stand in front of the second, let their
    blocks have different names, and let not both declare an entry. Then the one followed by the
    other is accepted. Its blocks are those of the first and then those of the second, which begin
    as many lines further down as the first text has and are otherwise the same; its entry is the
    one that is declared, and the first of all the blocks if none is. -/
theorem readStory_append {grammar : Grammar} {firstId secondId first second : String}
    {story other : Story} (hfirst : readStory grammar firstId first = .ok story)
    (hsecond : readStory grammar secondId second = .ok other)
    (hapart : ∀ name ∈ story.blockNames, name ∉ other.blockNames)
    (hended : first = "" ∨ first.toList.getLast? = some '\n')
    (hmark : second.toList.head? ≠ some byteOrderMark)
    (honce : ¬ ((∃ name, Declares grammar first name) ∧ ∃ name, Declares grammar second name))
    (fileId : String) :
    ∃ joined, readStory grammar fileId (first ++ second) = .ok joined ∧ joined.fileId = fileId ∧
      joined.blocks =
        story.blocks ++ other.blocks.map (Block.movedDown (linesOf first.toList).length) ∧
      (∀ name, Declares grammar first name ∨ Declares grammar second name →
        joined.entry = some name) ∧
      ((¬ ∃ name, Declares grammar first name ∨ Declares grammar second name) →
        joined.entry = joined.blocks.head?.map Block.name) := by
  obtain ⟨blocks, entries, hparts, hnames, hfew, hnamed, rfl⟩ := isStory_of_readStory hfirst
  obtain ⟨others, laterEntries, hlater, hlaterNames, hlaterFew, hlaterNamed, rfl⟩ :=
    isStory_of_readStory hsecond
  have hlines : linesOf (first ++ second).toList =
      linesOf first.toList ++ linesOf second.toList := by
    rw [String.toList_append]
    exact linesOf_append (hended.imp_left (congrArg String.toList)) hmark
  have hjoined := hparts.append (hlater.movedDown (linesOf first.toList).length)
  have hmoved : (others.map (Block.movedDown (linesOf first.toList).length)).map Block.name =
      others.map Block.name := List.map_map
  have hdeclared : ∀ name, name ∈ entries ++ laterEntries ↔
      Declares grammar first name ∨ Declares grammar second name := fun name =>
    List.mem_append.trans (or_congr hparts.mem_entries_iff hlater.mem_entries_iff)
  -- Not both of the lists have an entry.
  have honly : (entries ++ laterEntries).length ≤ 1 := by
    rcases entries with - | ⟨name, rest⟩
    · exact hlaterFew
    · rcases laterEntries with - | ⟨laterName, laterRest⟩
      · rwa [List.append_nil]
      · exact absurd ⟨⟨name, hparts.mem_entries_iff.1 List.mem_cons_self⟩,
          laterName, hlater.mem_entries_iff.1 List.mem_cons_self⟩ honce
  have hstory : IsStory grammar fileId (linesOf (first ++ second).toList)
      { fileId
        blocks := blocks ++ others.map (Block.movedDown (linesOf first.toList).length)
        entry := (entries ++ laterEntries).head?.or
          ((blocks ++ others.map (Block.movedDown (linesOf first.toList).length)).head?.map
            Block.name) } := by
    refine ⟨_, entries ++ laterEntries, hlines ▸ hjoined, ?_, honly, ?_, rfl⟩
    · rw [List.map_append, hmoved]
      refine List.nodup_append.2 ⟨hnames, hlaterNames, ?_⟩
      rintro name hname _ hlaterName rfl
      exact hapart name hname hlaterName
    · rw [List.map_append, hmoved]
      exact List.forall_mem_append.2
        ⟨fun entry hmem => List.mem_append_left _ (hnamed entry hmem),
          fun entry hmem => List.mem_append_right _ (hlaterNamed entry hmem)⟩
  refine ⟨_, (readStory_eq_ok_iff _ _ _ _).2 hstory, rfl, rfl, ?_, ?_⟩
  · intro name hname
    obtain ⟨entry, hentry⟩ : ∃ entry, entries ++ laterEntries = [entry] :=
      List.length_eq_one_iff.1
        (Nat.le_antisymm honly (List.length_pos_of_mem ((hdeclared name).2 hname)))
    have hsame := (hdeclared name).2 hname
    rw [hentry] at hsame ⊢
    rw [List.mem_singleton.1 hsame]
    rfl
  · intro hnone
    have hnil : entries ++ laterEntries = [] :=
      List.eq_nil_iff_forall_not_mem.2 fun name hmem => hnone ⟨name, (hdeclared name).1 hmem⟩
    dsimp only
    rw [hnil]
    rfl

/-- A yard, from which one gets to a hall of another file. -/
def yardText : String := "# The yard.\n@block yard\nA yard.\n@jump hall\n@end\n\n"

/-- A hall, with which the story begins. -/
def hallText : String := "@entry hall\n@block hall\nA hall.\n@end"

theorem readStory_append_castle :
    ∃ joined, readStory {} "castle" (yardText ++ hallText) = .ok joined ∧
      joined.blocks.map (fun block => (block.name, block.line)) = [("yard", 2), ("hall", 8)] ∧
      joined.entry = some "hall" := by
  have hfirst : readStory {} "yard" yardText =
      .ok { fileId := "yard"
            blocks := [{ name := "yard"
                         nodes := [.text { content := "A yard." }, .jump (.block "hall")]
                         line := 2 }]
            entry := some "yard" } := rfl
  have hsecond : readStory {} "hall" hallText =
      .ok { fileId := "hall"
            blocks := [{ name := "hall", nodes := [.text { content := "A hall." }], line := 2 }]
            entry := some "hall" } := rfl
  have hdeclares : Declares {} hallText "hall" := by
    have hread : Heading.read {} "@entry hall".toList =
        .ok (some (.entry "hall" ⟨1, "entry".toList, 8, "hall".toList⟩)) := rfl
    rcases announces_of_read hread with ⟨hnone, -⟩ | ⟨heading, hsome, hannounces⟩
    · cases hnone
    · cases hsome
      exact ⟨_, List.mem_cons_self, _, hannounces⟩
  have hquiet : (linesOf yardText.toList).any (fun line =>
      (Directive.ofLine? line).any (·.keyword = "entry".toList)) = false := rfl
  have honce : ¬ ∃ name, Declares {} yardText name := by
    rintro ⟨name, line, hmem, directive, hannounces⟩
    have hline := List.any_eq_false.1 hquiet line hmem
    cases hannounces with
    | entry _ hdirective _ =>
      rw [hdirective.divides] at hline
      exact hline (decide_eq_true hdirective.keyword_eq)
  obtain ⟨joined, hread, -, hblocks, hentry, -⟩ := readStory_append hfirst hsecond (by decide)
    (.inr rfl) (by decide) (fun hboth => honce hboth.1) "castle"
  exact ⟨joined, hread, by rw [hblocks]; rfl, hentry "hall" (.inr hdeclares)⟩

end Markup
end Gamebook
