/-
  Trimmed texts, and the lines of a text.

  Trimming takes away the blanks at both ends of a text, so trimming once more takes away nothing:
  what is left begins and ends with a character that is no blank, or is empty.  Dividing a text at
  some characters leaves none of them in the pieces, so the lines of a file hold no line breaks; the
  words of a text are what is left between its blanks.  What a trimmed line begins with tells
  whether it is a directive.

  These are facts about texts that several readers share.  Many of them say that an operation undoes
  another one, or that it makes no difference before another one; a reader that trims, divides and
  joins a text is then followed by rewriting.
-/
import Gamebook.Markup.Document
import Gamebook.Proofs.ParsedLibrary
import Mathlib.Data.List.DropRight

namespace Gamebook.Text

/-! ## Trimming

  Trimming is done from both ends, and each end is looked at by itself: in front by the first
  character, behind by the last one. -/

theorem trimLeft_cons_of_blank {c : Char} (h : isBlank c = true) (rest : List Char) :
    trimLeft (c :: rest) = trimLeft rest := List.dropWhile_cons_of_pos h

theorem trimLeft_cons_of_not_blank {c : Char} (h : ¬ isBlank c = true) (rest : List Char) :
    trimLeft (c :: rest) = c :: rest := List.dropWhile_cons_of_neg h

/-- What is left of a text begins with a character that is no blank. -/
theorem isBlank_of_head?_trimLeft {text : List Char} {c : Char}
    (h : (trimLeft text).head? = some c) : isBlank c = false := by
  have hfirst := List.head?_dropWhile_not isBlank text
  rw [show (text.dropWhile isBlank).head? = some c from h] at hfirst
  exact hfirst

/-- A text that no blank stands in front of is trimmed there already. -/
theorem trimLeft_eq_self {text : List Char}
    (h : ∀ c, text.head? = some c → isBlank c = false) : trimLeft text = text := by
  cases text with
  | nil => rfl
  | cons first rest => exact trimLeft_cons_of_not_blank (Bool.eq_false_iff.1 (h first rfl)) rest

theorem trimRight_isPrefix (text : List Char) : trimRight text <+: text :=
  List.rdropWhile_prefix isBlank text

theorem trimRight_trimRight (text : List Char) : trimRight (trimRight text) = trimRight text :=
  List.rdropWhile_idempotent isBlank text

/-- A beginning of a text begins like the text. -/
theorem head?_of_isPrefix {text whole : List Char} (h : text <+: whole) {c : Char}
    (hc : text.head? = some c) : whole.head? = some c := by
  obtain ⟨rest, rfl⟩ := h
  cases text with
  | nil => cases hc
  | cons first others => exact hc

/-- An end of a text ends like the text. -/
theorem getLast?_of_isSuffix {text whole : List Char} (h : text <:+ whole) {c : Char}
    (hc : text.getLast? = some c) : whole.getLast? = some c := by
  obtain ⟨front, rfl⟩ := h
  rw [List.getLast?_append, hc]
  rfl

/-- A trimmed text begins with a character that is no blank. -/
theorem isBlank_of_head?_trim {text : List Char} {c : Char} (h : (trim text).head? = some c) :
    isBlank c = false :=
  isBlank_of_head?_trimLeft (head?_of_isPrefix (trimRight_isPrefix (trimLeft text)) h)

/-- **Trimming twice is trimming once.** -/
theorem trim_trim (text : List Char) : trim (trim text) = trim text := by
  -- What is left begins with no blank, so nothing is taken away in front the second time.
  have hleft : trimLeft (trim text) = trim text :=
    trimLeft_eq_self fun _ => isBlank_of_head?_trim
  show trimRight (trimLeft (trim text)) = trim text
  rw [hleft]
  exact trimRight_trimRight (trimLeft text)

theorem trimRight_of_trim {text : List Char} (h : trim text = text) : trimRight text = text := by
  rw [← h]
  exact trimRight_trimRight (trimLeft text)

/-- A text is trimmed if it begins and ends with characters that are no blanks. -/
theorem trim_eq_self {text : List Char} (hfirst : ∀ c, text.head? = some c → isBlank c = false)
    (hlast : ∀ c, text.getLast? = some c → isBlank c = false) : trim text = text := by
  rw [trim, trimLeft_eq_self hfirst]
  refine List.rdropWhile_eq_self_iff.2 fun hne => ?_
  rw [hlast _ (List.getLast?_eq_some_getLast hne)]
  exact Bool.false_ne_true

theorem trim_cons_of_blank {c : Char} (h : isBlank c = true) (text : List Char) :
    trim (c :: text) = trim text := by
  rw [trim, trimLeft_cons_of_blank h]
  rfl

theorem trimRight_concat_of_blank {c : Char} (h : isBlank c = true) (text : List Char) :
    trimRight (text ++ [c]) = trimRight text := List.rdropWhile_concat_pos isBlank text c h

theorem trimRight_concat_of_not_blank {c : Char} (h : ¬ isBlank c = true) (text : List Char) :
    trimRight (text ++ [c]) = text ++ [c] := List.rdropWhile_concat_neg isBlank text c h

/-- One blank at the end makes no difference. -/
theorem trim_concat_of_blank {c : Char} (h : isBlank c = true) (text : List Char) :
    trim (text ++ [c]) = trim text := by
  rw [trim, trim, trimLeft, trimLeft, List.dropWhile_append]
  split
  next hempty =>
    rw [List.isEmpty_iff.1 hempty, List.dropWhile_cons_of_pos h]
    rfl
  next => exact trimRight_concat_of_blank h _

/-- Blanks in front of a text are taken away when it is trimmed. -/
theorem trim_append_of_blank {front : List Char} (h : ∀ c ∈ front, isBlank c = true)
    (text : List Char) : trim (front ++ text) = trim text := by
  rw [trim, trimLeft, List.dropWhile_append_of_pos h]
  rfl

/-- So are the blanks behind it. -/
theorem trim_append_blanks {trail : List Char} (h : ∀ c ∈ trail, isBlank c = true)
    (text : List Char) : trim (text ++ trail) = trim text := by
  induction trail using List.reverseRecOn with
  | nil => rw [List.append_nil]
  | append_singleton trail c ih =>
    obtain ⟨htrail, hc⟩ := List.forall_mem_append.1 h
    rw [← List.append_assoc, trim_concat_of_blank (hc c List.mem_cons_self), ih htrail]

/-- A trimmed text ends with a character that is no blank. -/
theorem isBlank_of_getLast?_trim {text : List Char} (h : trim text = text) {c : Char}
    (hc : text.getLast? = some c) : isBlank c = false := by
  have hne : text ≠ [] := by
    rintro rfl
    cases hc
  have hlast := List.rdropWhile_eq_self_iff.1 (trimRight_of_trim h) hne
  rw [List.getLast?_eq_some_getLast hne] at hc
  cases hc
  exact Bool.eq_false_iff.2 hlast

theorem indentation_eq_zero {text : List Char}
    (h : ∀ c, text.head? = some c → isBlank c = false) : indentation text = 0 := by
  cases text with
  | nil => rfl
  | cons first rest =>
    rw [indentation, List.takeWhile_cons_of_neg (Bool.eq_false_iff.1 (h first rfl))]
    rfl

/-! ## Dividing

  Dividing is a fold from the end of the text, which keeps the piece that is being filled apart from
  the others.  `splitWhere_eq` turns this into a recursion from the front, and most of what follows
  rests on that. -/

/-- No piece holds a character that the text was divided at. -/
theorem cut_of_mem_splitWhere {cut : Char → Bool} {text piece : List Char} {c : Char}
    (hpiece : piece ∈ splitWhere cut text) (hc : c ∈ piece) : cut c = false := by
  have hparts : ∀ text : List Char, ∀ piece ∈ (text.foldr (splitWhere.step cut) ([], [])).1 ::
      (text.foldr (splitWhere.step cut) ([], [])).2, ∀ c ∈ piece, cut c = false := by
    intro text
    induction text with
    | nil =>
      intro piece hpiece c hc
      rw [List.mem_singleton.1 hpiece] at hc
      cases hc
    | cons first rest ih =>
      obtain ⟨hfirst, hothers⟩ := List.forall_mem_cons.1 ih
      rw [List.foldr_cons, splitWhere.step]
      split
      next => exact List.forall_mem_cons.2 ⟨List.forall_mem_nil _, ih⟩
      next hkept =>
        rw [Bool.not_eq_true] at hkept
        exact List.forall_mem_cons.2 ⟨List.forall_mem_cons.2 ⟨hkept, hfirst⟩, hothers⟩
  exact hparts text piece hpiece c hc

/-- Every character that the text was not divided at is in one of the pieces. -/
theorem exists_mem_splitWhere {cut : Char → Bool} {text : List Char} {c : Char} (hc : c ∈ text)
    (hkept : ¬ cut c = true) : ∃ piece ∈ splitWhere cut text, c ∈ piece := by
  show ∃ piece ∈ (text.foldr (splitWhere.step cut) ([], [])).1 ::
    (text.foldr (splitWhere.step cut) ([], [])).2, c ∈ piece
  induction text with
  | nil => cases hc
  | cons first rest ih =>
    rw [List.foldr_cons, splitWhere.step]
    generalize rest.foldr (splitWhere.step cut) ([], []) = parts at ih
    rcases List.mem_cons.1 hc with rfl | hrest
    · rw [if_neg hkept]
      exact ⟨_, List.mem_cons_self, List.mem_cons_self⟩
    · obtain ⟨piece, hpiece, hmem⟩ := ih hrest
      split
      next => exact ⟨piece, List.mem_cons_of_mem _ hpiece, hmem⟩
      next =>
        rcases List.mem_cons.1 hpiece with rfl | hothers
        · exact ⟨_, List.mem_cons_self, List.mem_cons_of_mem _ hmem⟩
        · exact ⟨piece, List.mem_cons_of_mem _ hothers, hmem⟩

/-- The first piece of a text ends at the first cut, and the others are the pieces behind it. -/
theorem splitWhere_eq (cut : Char → Bool) (text : List Char) :
    splitWhere cut text = text.takeWhile (!cut ·) ::
      match text.dropWhile (!cut ·) with
      | [] => []
      | _ :: rest => splitWhere cut rest := by
  induction text with
  | nil => rfl
  | cons c rest ih =>
    show (splitWhere.step cut c (rest.foldr (splitWhere.step cut) ([], []))).1 ::
      (splitWhere.step cut c (rest.foldr (splitWhere.step cut) ([], []))).2 = _
    obtain ⟨hfirst, hothers⟩ := List.cons.inj ih
    rw [splitWhere.step]
    by_cases hcut : cut c = true
    · rw [if_pos hcut, List.takeWhile_cons_of_neg (by simp [hcut]),
        List.dropWhile_cons_of_neg (by simp [hcut])]
      rfl
    · rw [if_neg hcut, List.takeWhile_cons_of_pos (by simp [hcut]),
        List.dropWhile_cons_of_pos (by simp [hcut]), ← hothers, ← hfirst]

theorem splitWhere_of_kept {cut : Char → Bool} {text : List Char}
    (h : ∀ c ∈ text, cut c = false) : splitWhere cut text = [text] := by
  have hkept : ∀ c ∈ text, (!cut c) = true := fun c hc => by rw [h c hc]; rfl
  rw [splitWhere_eq, List.takeWhile_eq_self_iff.2 hkept, List.dropWhile_eq_nil_iff.2 hkept]

/-- A piece in front of a cut is the first one. -/
theorem splitWhere_append {cut : Char → Bool} {piece : List Char} (h : ∀ c ∈ piece, cut c = false)
    {mark : Char} (hmark : cut mark = true) (rest : List Char) :
    splitWhere cut (piece ++ mark :: rest) = piece :: splitWhere cut rest := by
  have hkept : ∀ c ∈ piece, (!cut c) = true := fun c hc => by rw [h c hc]; rfl
  rw [splitWhere_eq, List.takeWhile_append_of_pos hkept,
    List.takeWhile_cons_of_neg (by simp [hmark]), List.dropWhile_append_of_pos hkept,
    List.dropWhile_cons_of_neg (by simp [hmark]), List.append_nil]

theorem splitWhere_cons (cut : Char → Bool) (c : Char) (rest : List Char) :
    splitWhere cut (c :: rest) =
      if cut c then [] :: splitWhere cut rest
      else (splitWhere cut rest).modifyHead (c :: ·) := by
  show (splitWhere.step cut c (rest.foldr (splitWhere.step cut) ([], []))).1 ::
    (splitWhere.step cut c (rest.foldr (splitWhere.step cut) ([], []))).2 = _
  rw [splitWhere.step]
  split <;> rfl

/-- The pieces on either side of a cut are those of the two texts. -/
theorem splitWhere_append_mark {cut : Char → Bool} {mark : Char} (hmark : cut mark = true)
    (front rest : List Char) :
    splitWhere cut (front ++ mark :: rest) = splitWhere cut front ++ splitWhere cut rest := by
  induction front with
  | nil => exact splitWhere_append (fun _ h => absurd h List.not_mem_nil) hmark rest
  | cons c front ih =>
    rw [List.cons_append, splitWhere_cons, splitWhere_cons, ih]
    split
    next => rfl
    next => rw [splitWhere_eq cut front]; rfl

/-! ## Joining

  Joining pieces and dividing the text again gives the same pieces, if they hold no marks
  themselves. -/

/-- Joined pieces hold what the pieces hold. -/
theorem mem_intercalate {mark piece : List Char} {pieces : List (List Char)} {c : Char}
    (hpiece : piece ∈ pieces) (hc : c ∈ piece) : c ∈ List.intercalate mark pieces := by
  induction pieces with
  | nil => cases hpiece
  | cons first others ih =>
    by_cases hend : others = []
    · subst hend
      rw [List.mem_singleton.1 hpiece] at hc
      rwa [List.intercalate_singleton]
    · rw [List.intercalate_cons_of_ne_nil hend, List.append_assoc]
      rcases List.mem_cons.1 hpiece with rfl | hothers
      · exact List.mem_append_left _ hc
      · exact List.mem_append_right _ (List.mem_append_right _ (ih hothers))

/-- Joined pieces hold what the pieces hold and what stands between them. -/
theorem mem_of_mem_intercalate {mark : List Char} {pieces : List (List Char)} {c : Char}
    (h : c ∈ List.intercalate mark pieces) : c ∈ mark ∨ ∃ piece ∈ pieces, c ∈ piece := by
  induction pieces with
  | nil => cases h
  | cons first others ih =>
    by_cases hend : others = []
    · subst hend
      rw [List.intercalate_singleton] at h
      exact .inr ⟨first, List.mem_cons_self, h⟩
    · rw [List.intercalate_cons_of_ne_nil hend, List.mem_append, List.mem_append] at h
      rcases h with (hfirst | hmark) | hrest
      · exact .inr ⟨first, List.mem_cons_self, hfirst⟩
      · exact .inl hmark
      · rcases ih hrest with hmark | ⟨piece, hpiece, hc⟩
        · exact .inl hmark
        · exact .inr ⟨piece, List.mem_cons_of_mem _ hpiece, hc⟩

/-- Joined pieces are divided at the marks between them; what stands behind a mark stays with the
    piece behind it. -/
theorem splitWhere_intercalate {cut : Char → Bool} {mark : Char} (hmark : cut mark = true)
    {gap : List Char} (hgap : ∀ c ∈ gap, cut c = false) {first : List Char}
    {others : List (List Char)} (h : ∀ piece ∈ first :: others, ∀ c ∈ piece, cut c = false) :
    splitWhere cut (List.intercalate (mark :: gap) (first :: others)) =
      first :: others.map (gap ++ ·) := by
  induction others generalizing first with
  | nil =>
    rw [List.intercalate_singleton]
    exact splitWhere_of_kept (h first List.mem_cons_self)
  | cons second rest ih =>
    obtain ⟨hfirst, hothers⟩ := List.forall_mem_cons.1 h
    obtain ⟨hsecond, hrest⟩ := List.forall_mem_cons.1 hothers
    have hnext := ih (List.forall_mem_cons.2 ⟨List.forall_mem_append.2 ⟨hgap, hsecond⟩, hrest⟩)
    -- What stands behind the mark is moved to the piece behind it before the text is divided.
    have hshift : gap ++ List.intercalate (mark :: gap) (second :: rest) =
        List.intercalate (mark :: gap) ((gap ++ second) :: rest) := by
      by_cases hend : rest = []
      · rw [hend, List.intercalate_singleton, List.intercalate_singleton]
      · rw [List.intercalate_cons_of_ne_nil hend, List.intercalate_cons_of_ne_nil hend]
        simp only [List.append_assoc]
    rw [List.intercalate_cons_of_ne_nil (List.cons_ne_nil second rest), List.append_assoc,
      List.cons_append, splitWhere_append hfirst hmark, hshift, hnext, List.map_cons]

/-! ## Words

  The words of a text are its pieces between blanks, without the empty ones.  Whatever blanks there
  are, and how many of them in a row, the words are the same. -/

/-- The words on either side of a blank are those of the two texts. -/
theorem words_append_of_blank {c : Char} (h : isBlank c = true) (front rest : List Char) :
    words (front ++ c :: rest) = words front ++ words rest := by
  rw [words, splitWhere_append_mark h, List.filter_append]
  rfl

theorem words_cons_of_blank {c : Char} (h : isBlank c = true) (rest : List Char) :
    words (c :: rest) = words rest := words_append_of_blank h [] rest

/-- A word goes on up to the next blank. -/
theorem words_cons_of_not_blank {c : Char} (h : ¬ isBlank c = true) (rest : List Char) :
    words (c :: rest) =
      (c :: rest.takeWhile (!isBlank ·)) :: words (rest.dropWhile (!isBlank ·)) := by
  rw [words, splitWhere_eq, List.takeWhile_cons_of_pos (by simp [h]),
    List.dropWhile_cons_of_pos (by simp [h]), List.filter_cons_of_pos (by simp)]
  congr 1
  cases hrest : rest.dropWhile (!isBlank ·) with
  | nil => rfl
  | cons first others =>
    have hfirst := List.head?_dropWhile_not (!isBlank ·) rest
    rw [hrest] at hfirst
    have hblank : isBlank first = true := by simpa using hfirst
    exact (words_cons_of_blank hblank others).symm

/-- Trimming in front leaves the words as they are. -/
theorem words_trimLeft (text : List Char) : words (trimLeft text) = words text := by
  induction text with
  | nil => rfl
  | cons c rest ih =>
    by_cases hblank : isBlank c = true
    · rw [trimLeft_cons_of_blank hblank, words_cons_of_blank hblank, ih]
    · rw [trimLeft_cons_of_not_blank hblank]

/-- So does trimming behind. -/
theorem words_trimRight (text : List Char) : words (trimRight text) = words text := by
  induction text using List.reverseRecOn with
  | nil => rfl
  | append_singleton text c ih =>
    by_cases hblank : isBlank c = true
    · rw [trimRight_concat_of_blank hblank, words_append_of_blank hblank, ih]
      exact (List.append_nil _).symm
    · rw [trimRight_concat_of_not_blank hblank]

/-- Blanks at either end of a text are in none of its words. -/
theorem words_trim (text : List Char) : words (trim text) = words text := by
  rw [trim, words_trimRight, words_trimLeft]

/-- The words of a text hold no blanks, and every other character of it is in one of them. -/
theorem mem_words {text word : List Char} (h : word ∈ words text) :
    word ≠ [] ∧ ∀ c ∈ word, isBlank c = false ∧ c ∈ text := by
  obtain ⟨hpiece, hsome⟩ := List.mem_filter.1 h
  exact ⟨of_decide_eq_true hsome, fun c hc =>
    ⟨cut_of_mem_splitWhere hpiece hc, mem_of_mem_splitWhere hpiece hc⟩⟩

theorem exists_mem_words {text : List Char} {c : Char} (hc : c ∈ text) (h : ¬ isBlank c = true) :
    ∃ word ∈ words text, c ∈ word := by
  obtain ⟨piece, hpiece, hmem⟩ := exists_mem_splitWhere hc h
  exact ⟨piece, List.mem_filter.2 ⟨hpiece, decide_eq_true (List.ne_nil_of_mem hmem)⟩, hmem⟩

/-- The first word of a text begins it, apart from blanks. -/
theorem words_eq_cons {text word : List Char} {others : List (List Char)}
    (h : words text = word :: others) :
    ∃ c rest, trimLeft text = c :: rest ∧ ¬ isBlank c = true ∧
      word = c :: rest.takeWhile (!isBlank ·) ∧ others = words (rest.dropWhile (!isBlank ·)) := by
  induction text with
  | nil => cases h
  | cons c rest ih =>
    by_cases hblank : isBlank c = true
    · rw [words_cons_of_blank hblank] at h
      rw [trimLeft_cons_of_blank hblank]
      exact ih h
    · rw [words_cons_of_not_blank hblank] at h
      obtain ⟨hword, hothers⟩ := List.cons.inj h
      exact ⟨c, rest, trimLeft_cons_of_not_blank hblank rest, hblank, hword.symm, hothers.symm⟩

/-! ## Pieces of a text

  The readers look for a piece in a text, and for the first or the last place to divide it.  What is
  found can be put together again to the text, and where nothing is found there is nothing of the
  kind. -/

/-- A piece is found in a text just if the text holds it. -/
theorem indexOf?_isSome_iff {piece text : List Char} :
    (indexOf? piece text).isSome = true ↔ piece <:+: text := by
  induction text with
  | nil =>
    rw [List.infix_nil, indexOf?]
    cases piece with
    | nil => exact ⟨fun _ => rfl, fun _ => rfl⟩
    | cons c piece => exact ⟨nofun, nofun⟩
  | cons c rest ih =>
    rw [indexOf?, List.infix_cons_iff, ← List.isPrefixOf_iff_prefix]
    by_cases hpre : piece.isPrefixOf (c :: rest) = true
    · rw [if_pos hpre]
      exact ⟨fun _ => .inl hpre, fun _ => rfl⟩
    · rw [if_neg hpre, Option.isSome_map, ih, or_iff_right hpre]

/-- A piece that begins with no blank and stands behind the blanks in front is first found there. -/
theorem indexOf?_indentation {c : Char} {piece text : List Char} (hc : ¬ isBlank c = true)
    (h : c :: piece <+: trimLeft text) :
    indexOf? (c :: piece) text = some (indentation text) := by
  induction text with
  | nil => exact absurd (List.prefix_nil.1 h) (List.cons_ne_nil c piece)
  | cons first rest ih =>
    by_cases hblank : isBlank first = true
    · have hother : ¬ (c :: piece).isPrefixOf (first :: rest) = true := by
        intro hpre
        rw [List.isPrefixOf_iff_prefix, List.cons_prefix_cons] at hpre
        rw [hpre.1] at hc
        exact hc hblank
      rw [trimLeft_cons_of_blank hblank] at h
      rw [indexOf?, if_neg hother, ih h, indentation, indentation,
        List.takeWhile_cons_of_pos hblank]
      rfl
    · rw [trimLeft_cons_of_not_blank hblank] at h
      rw [indexOf?, if_pos (List.isPrefixOf_iff_prefix.2 h), indentation,
        List.takeWhile_cons_of_neg hblank]
      rfl

theorem trim_isInfix (text : List Char) : trim text <:+: text :=
  (trimRight_isPrefix (trimLeft text)).isInfix.trans (List.dropWhile_suffix isBlank).isInfix

/-- The end of a text that no blanks end is not ended by blanks either. -/
theorem trimRight_of_suffix {text whole : List Char} (h : text <:+ whole)
    (hwhole : trimRight whole = whole) : trimRight text = text := by
  refine List.rdropWhile_eq_self_iff.2 fun hne => ?_
  rw [h.getLast hne]
  exact List.rdropWhile_eq_self_iff.1 hwhole _

/-- A text that no blanks end ends like what is left of it when it is trimmed. -/
theorem getLast?_of_trim {text : List Char} (h : trimRight text = text) {c : Char}
    (hc : (trim text).getLast? = some c) : text.getLast? = some c := by
  have hsuffix : trimLeft text <:+ text := List.dropWhile_suffix isBlank
  rw [trim, trimRight_of_suffix hsuffix h] at hc
  exact getLast?_of_isSuffix hsuffix hc

theorem splitFirst_isSuffix (mark : Char) (text : List Char) : (splitFirst mark text).2 <:+ text :=
  (List.drop_suffix 1 _).trans (List.dropWhile_suffix _)

/-- A text is divided at its first mark. -/
theorem splitFirst_append {mark : Char} {text : List Char} (h : mark ∉ text) (rest : List Char) :
    splitFirst mark (text ++ mark :: rest) = (text, rest) := by
  have hkept : ∀ c ∈ text, decide (c ≠ mark) = true :=
    fun c hc => decide_eq_true fun heq => h (heq ▸ hc)
  rw [splitFirst, List.takeWhile_append_of_pos hkept, List.takeWhile_cons_of_neg (by simp),
    List.dropWhile_append_of_pos hkept, List.dropWhile_cons_of_neg (by simp), List.append_nil]
  rfl

/-- A text without the mark is not divided. -/
theorem splitFirst_of_not_mem {mark : Char} {text : List Char} (h : mark ∉ text) :
    splitFirst mark text = (text, []) := by
  have hkept : ∀ c ∈ text, decide (c ≠ mark) = true :=
    fun c hc => decide_eq_true fun heq => h (heq ▸ hc)
  rw [splitFirst, List.takeWhile_eq_self_iff.2 hkept, List.dropWhile_eq_nil_iff.2 hkept]
  rfl

/-- A text is divided at the last of its marks just if it holds one. -/
theorem splitLast?_isSome (mark : Char) (text : List Char) :
    (splitLast? [mark] text).isSome = true ↔ mark ∈ text := by
  induction text with
  | nil => exact ⟨nofun, nofun⟩
  | cons c rest ih =>
    rw [splitLast?]
    cases hrest : splitLast? [mark] rest with
    | some found =>
      rw [hrest] at ih
      exact ⟨fun _ => List.mem_cons_of_mem c (ih.1 rfl), fun _ => rfl⟩
    | none =>
      rw [hrest] at ih
      have hnone : mark ∉ rest := fun hmem => Bool.false_ne_true (ih.2 hmem)
      dsimp only
      rw [List.mem_cons, or_iff_left hnone]
      constructor
      · intro h
        split at h
        next hpre =>
          exact (List.cons_prefix_cons.1 (List.isPrefixOf_iff_prefix.1 hpre)).1
        next => cases h
      · rintro rfl
        have hpre : [mark].isPrefixOf (mark :: rest) = true :=
          List.isPrefixOf_iff_prefix.2 (List.prefix_append [mark] rest)
        rw [if_pos hpre]
        rfl

/-- A text is divided at a mark if there is none further on, not even one that shares characters
    with it. -/
theorem splitLast?_eq_some_iff {m : Char} {mark text before after : List Char} :
    splitLast? (m :: mark) text = some (before, after) ↔
      text = before ++ m :: (mark ++ after) ∧ splitLast? (m :: mark) (mark ++ after) = none := by
  constructor
  · intro h
    induction text generalizing before with
    | nil => cases h
    | cons c rest ih =>
      rw [splitLast?] at h
      cases hrest : splitLast? (m :: mark) rest with
      -- A mark further on was found, so the first character stands before it.
      | some found =>
        obtain ⟨front, back⟩ := found
        rw [hrest] at h
        cases h
        obtain ⟨heq, hnone⟩ := ih hrest
        exact ⟨by rw [heq, List.cons_append], hnone⟩
      | none =>
        rw [hrest] at h
        dsimp only at h
        split at h
        next hpre =>
          obtain ⟨rfl, back, rfl⟩ := List.cons_prefix_cons.1 (List.isPrefixOf_iff_prefix.1 hpre)
          rw [List.length_cons, List.drop_succ_cons, List.drop_left] at h
          cases h
          exact ⟨rfl, hrest⟩
        next => cases h
  · rintro ⟨rfl, hnone⟩
    induction before with
    | nil =>
      have hpre : (m :: mark).isPrefixOf (m :: (mark ++ after)) = true :=
        List.isPrefixOf_iff_prefix.2 (List.prefix_append (m :: mark) after)
      rw [List.nil_append, splitLast?, hnone]
      dsimp only
      rw [if_pos hpre, List.length_cons, List.drop_succ_cons, List.drop_left]
    | cons c before ih => rw [List.cons_append, splitLast?, ih]

/-- A text is divided at a character that does not occur further on. -/
theorem splitLast?_singleton_iff {mark : Char} {text before after : List Char} :
    splitLast? [mark] text = some (before, after) ↔
      text = before ++ mark :: after ∧ mark ∉ after := by
  rw [splitLast?_eq_some_iff, List.nil_append, ← splitLast?_isSome, Bool.not_eq_true,
    Option.isSome_eq_false_iff, Option.isNone_iff_eq_none]

end Gamebook.Text

namespace Gamebook.Markup

open Gamebook.Text

/-- After the breaks have been unified no carriage return is left. -/
theorem not_mem_unifyBreaks (text : List Char) : '\r' ∉ unifyBreaks text := by
  fun_induction unifyBreaks text with
  | case1 => exact List.not_mem_nil
  | case2 rest ih => exact List.not_mem_cons_of_ne_of_not_mem (by decide) ih
  | case3 rest _ ih => exact List.not_mem_cons_of_ne_of_not_mem (by decide) ih
  | case4 c rest _ hother ih =>
    refine List.not_mem_cons_of_ne_of_not_mem (fun heq => ?_) ih
    exact hother heq.symm

/-- **The lines of a text hold no line breaks.** -/
theorem not_mem_of_mem_linesOf {text line : List Char} (h : line ∈ linesOf text) :
    '\n' ∉ line ∧ '\r' ∉ line := by
  have hpiece : line ∈ splitWhere (· = '\n')
      (unifyBreaks (text.dropWhile (· = byteOrderMark))) := by
    rw [linesOf, dropEmptyEnd] at h
    split at h
    next => exact List.dropLast_subset _ h
    next => exact h
  constructor
  · intro hmem
    exact absurd (cut_of_mem_splitWhere hpiece hmem) (by decide)
  · intro hmem
    exact not_mem_unifyBreaks _ (mem_of_mem_splitWhere hpiece hmem)

/-- A line is a directive just if its first character other than a blank is the mark. -/
theorem ofLine?_isSome_iff (line : List Char) :
    (Directive.ofLine? line).isSome = true ↔ (trim line).head? = some directiveMark := by
  rw [Directive.ofLine?]
  cases trim line with
  | nil => exact ⟨nofun, nofun⟩
  | cons mark body =>
    rw [List.head?_cons, Option.some_inj]
    dsimp only
    split
    next hmark => exact ⟨fun _ => hmark, fun _ => rfl⟩
    next hmark => exact ⟨nofun, fun h => absurd h hmark⟩

/-- A line that begins with the mark, a keyword and a space is the directive of this keyword. -/
theorem ofLine?_directive {keyword arguments : List Char}
    (hkeyword : keyword.any isBlank = false) (hsome : arguments ≠ [])
    (hfirst : ∀ c, arguments.head? = some c → isBlank c = false)
    (hlast : ∀ c, arguments.getLast? = some c → isBlank c = false) :
    Directive.ofLine? (directiveMark :: (keyword ++ ' ' :: arguments)) =
      some ⟨1, keyword, keyword.length + 3, arguments⟩ := by
  have hmark : ∀ c, (directiveMark :: (keyword ++ ' ' :: arguments)).head? = some c →
      isBlank c = false := by
    intro c hc
    cases hc
    decide
  have htrim : trim (directiveMark :: (keyword ++ ' ' :: arguments)) =
      directiveMark :: (keyword ++ ' ' :: arguments) := by
    refine trim_eq_self hmark fun c hc => hlast c ?_
    rw [← List.cons_append, List.getLast?_append_of_ne_nil _ (List.cons_ne_nil ' ' arguments),
      List.getLast?_cons_of_ne_nil hsome] at hc
    exact hc
  have hgap : indentation (' ' :: arguments) = 1 := by
    rw [indentation, List.takeWhile_cons_of_pos (by decide), List.length_cons]
    exact congrArg (· + 1) (indentation_eq_zero hfirst)
  have hkept : ∀ c ∈ keyword, (!isBlank c) = true := fun c hc => by
    simpa using List.any_eq_false.1 hkeyword c hc
  rw [Directive.ofLine?, htrim]
  dsimp only
  rw [if_pos rfl, List.takeWhile_append_of_pos hkept, List.takeWhile_cons_of_neg (by decide),
    List.dropWhile_append_of_pos hkept, List.dropWhile_cons_of_neg (by decide), List.append_nil,
    trimLeft_cons_of_blank (by decide), trimLeft_eq_self hfirst, indentation_eq_zero hmark, hgap,
    show 0 + 1 + 1 + keyword.length + 1 = keyword.length + 3 by omega]

/-- The arguments of a directive are a piece of its line. -/
theorem arguments_isInfix {line : List Char} {directive : Directive}
    (h : Directive.ofLine? line = some directive) : directive.arguments <:+: line := by
  rw [Directive.ofLine?] at h
  split at h
  next => cases h
  next mark body htrim =>
    split at h
    next =>
      have hbody : body <:+: line := (List.suffix_cons mark body).isInfix.trans
        (htrim ▸ trim_isInfix line)
      cases h
      exact ((List.dropWhile_suffix _).trans (List.dropWhile_suffix _)).isInfix.trans hbody
    next => cases h

end Gamebook.Markup
