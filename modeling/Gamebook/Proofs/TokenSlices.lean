/-
  Dividing a condition into tokens loses nothing.

  The texts of the tokens are stretches of the condition, one after the other, each of them the
  longest piece at its place, and between them there are blanks only (`IsDivision`).  Where the
  condition cannot be divided to its end, the flaw shows at the first place that is no blank and
  where nothing can be taken (`IsStuck`).

  1. **The step.**  A division of a text is a division of what follows its first blank or its first
     token, at the columns where that stands (`isScanned_blank`, `isScanned_token`).  There is no
     choice, as no piece begins with a blank and there is only one longest piece.

  2. **The run.**  So scanning comes to all that may come of it, and to nothing else
     (`isScanned_iff`), by induction on the length of the text.

  `IsDivision` is written without recursion, place by place, and speaks of a text from some column
  on.  So dividing what follows a token is a matter of shifting places and columns, and almost all
  of the proofs about it are arithmetic on both.
-/
import Gamebook.Proofs.TokenPieces

namespace Gamebook.Markup

open Gamebook.Text

/-! ## Divisions

  A division is described by three conditions: each token is the longest piece at its place, the
  tokens stand one behind the other, and every character that is in none of them is a blank. -/

/-- The token covers the column. -/
def Token.Covers (token : Token) (column : Nat) : Prop :=
  token.column ≤ column ∧ column < token.column + token.text.length

/-- The token is a stretch of the text, whose first character stands in column `column`: the longest
    piece at its place, and what that spells. -/
structure Token.IsSlice (column : Nat) (text : List Char) (token : Token) : Prop where
  within : column ≤ token.column
  nonempty : token.text ≠ ""
  slice : token.text.toList = (text.drop (token.column - column)).take token.text.length
  longest : IsLongest (text.drop (token.column - column)) token.text.length
  spelled : IsSpelled token.text.toList token.symbol

/-- The first `stop` characters of the text are divided into tokens and blanks. -/
structure IsDivision (column : Nat) (text : List Char) (stop : Nat) (tokens : List Token) :
    Prop where
  stops : stop ≤ text.length
  slices : ∀ token ∈ tokens, token.IsSlice column text
  ends : ∀ token ∈ tokens, token.column + token.text.length ≤ column + stop
  apart : tokens.Pairwise fun token next => token.column + token.text.length ≤ next.column
  blank : ∀ place < stop, (∀ token ∈ tokens, ¬ token.Covers (column + place)) →
    ∀ c, text[place]? = some c → isBlank c = true

/-- Nothing can be taken at the head of a text: no piece stands there that is no blank, or a word
    that spells nothing. `column` is where it stands in the condition `whole`. -/
inductive IsStuck (whole : List Char) (column : Nat) : List Char → Flaw → Prop
  | character {c : Char} {rest : List Char} (hblank : isBlank c = false)
      (hnone : ∀ piece, piece <+: c :: rest → ¬ IsPiece piece) :
      IsStuck whole column (c :: rest) (Flaw.at column whole (.unexpectedCharacter c))
  | word {rest word : List Char} (hlongest : IsLongest rest word.length) (hpre : word <+: rest)
      (hword : isWord word = true)
      (hother : ∀ entry ∈ wordTable, String.ofList (word.map Char.toLower) ≠ entry.1) :
      IsStuck whole column rest (Flaw.at column word (.unexpectedWord (String.ofList word)))

/-- What may come of dividing a text, whose first character stands in column `column` of the
    condition `whole`: tokens, if all of it can be divided, or else the flaw behind all that can. -/
def IsScanned (whole : List Char) (column : Nat) (text : List Char) :
    Except Flaw (List Token) → Prop
  | .ok tokens => IsDivision column text text.length tokens
  | .error flaw => ∃ tokens place, IsDivision column text place tokens ∧
      IsStuck whole (column + place) (text.drop place) flaw

/-! ## What follows a blank or a token

  A division can be cut behind a place that lies in no token, and can be lengthened by a blank or a
  token in front.  The two directions of the step lemmas need one of these each. -/

section

variable {column stop k length : Nat} {text : List Char} {token : Token}
  {tokens others : List Token}

theorem Token.length_pos (h : token.text ≠ "") : 0 < token.text.length := by
  rw [Nat.pos_iff_ne_zero, Ne, String.length_eq_zero_iff]
  exact h

/-- A slice of what is left of a text is a slice of the text. -/
theorem isSlice_drop :
    token.IsSlice (column + k) (text.drop k) ↔
      column + k ≤ token.column ∧ token.IsSlice column text := by
  have hdrop : column + k ≤ token.column →
      (text.drop k).drop (token.column - (column + k)) = text.drop (token.column - column) := by
    intro hafter
    rw [List.drop_drop]
    congr 1
    omega
  constructor
  · rintro ⟨hwithin, hnonempty, hslice, hlongest, hspelled⟩
    rw [hdrop hwithin] at hslice hlongest
    exact ⟨hwithin, Nat.le_trans (Nat.le_add_right column k) hwithin, hnonempty, hslice, hlongest,
      hspelled⟩
  · rintro ⟨hafter, -, hnonempty, hslice, hlongest, hspelled⟩
    rw [← hdrop hafter] at hslice hlongest
    exact ⟨hafter, hnonempty, hslice, hlongest, hspelled⟩

/-- What is divided is also divided behind a place that lies in no token. -/
theorem IsDivision.drop (tokens : List Token)
    (h : IsDivision column text stop (tokens ++ others)) (hk : k ≤ stop)
    (hbefore : ∀ token ∈ tokens, token.column + token.text.length ≤ column + k)
    (hafter : ∀ token ∈ others, column + k ≤ token.column) :
    IsDivision (column + k) (text.drop k) (stop - k) others where
  stops := by
    rw [List.length_drop]
    exact Nat.sub_le_sub_right h.stops k
  slices token hmem :=
    isSlice_drop.2 ⟨hafter token hmem, h.slices token (List.mem_append_right _ hmem)⟩
  ends token hmem := by
    have hend := h.ends token (List.mem_append_right _ hmem)
    omega
  apart := (List.pairwise_append.1 h.apart).2.1
  -- A place behind the cut that no later token covers is not covered by an earlier one either.
  blank place hplace hbare c hc := by
    rw [List.getElem?_drop] at hc
    refine h.blank (k + place) (by omega) (List.forall_mem_append.2 ⟨?_, ?_⟩) c hc
    · rintro token hmem ⟨-, hless⟩
      have hend := hbefore token hmem
      omega
    · intro token hmem
      rw [← Nat.add_assoc]
      exact hbare token hmem

/-- Blanks may stand before what is divided. -/
theorem IsDivision.after_blank {c : Char} (hblank : isBlank c = true)
    (h : IsDivision (column + 1) text stop tokens) :
    IsDivision column (c :: text) (stop + 1) tokens where
  stops := Nat.succ_le_succ h.stops
  slices token hmem := ((@isSlice_drop column 1 (c :: text) token).1 (h.slices token hmem)).2
  ends token hmem := by
    have hend := h.ends token hmem
    omega
  apart := h.apart
  blank place hplace hbare d hd := by
    cases place with
    | zero =>
      cases hd
      exact hblank
    | succ place =>
      refine h.blank place (Nat.lt_of_succ_lt_succ hplace) (fun token hmem => ?_) d hd
      rw [Nat.add_right_comm, Nat.add_assoc]
      exact hbare token hmem

/-- A token may stand before what is divided. -/
theorem IsDivision.after_token (hslice : token.IsSlice column text) (hstart : token.column = column)
    (h : IsDivision (column + token.text.length) (text.drop token.text.length) stop others) :
    IsDivision column text (token.text.length + stop) (token :: others) where
  stops := by
    have hstops := h.stops
    have hlength := hslice.longest.within
    rw [List.length_drop] at hstops hlength
    omega
  slices :=
    List.forall_mem_cons.2 ⟨hslice, fun next hmem => (isSlice_drop.1 (h.slices next hmem)).2⟩
  ends := by
    refine List.forall_mem_cons.2 ⟨by omega, fun next hmem => ?_⟩
    have hend := h.ends next hmem
    omega
  apart := by
    refine List.pairwise_cons.2 ⟨fun next hmem => ?_, h.apart⟩
    rw [hstart]
    exact (h.slices next hmem).within
  blank place hplace hbare c hc := by
    obtain ⟨hfirst, hothers⟩ := List.forall_mem_cons.1 hbare
    have hafter : token.text.length ≤ place := by
      by_contra hbefore
      exact hfirst ⟨by omega, by omega⟩
    obtain ⟨further, rfl⟩ := Nat.exists_eq_add_of_le hafter
    refine h.blank further (by omega) (fun next hmem => ?_) c (by rwa [List.getElem?_drop])
    rw [Nat.add_assoc]
    exact hothers next hmem

theorem isDivision_zero : IsDivision column text 0 tokens ↔ tokens = [] := by
  constructor
  · intro h
    refine List.eq_nil_iff_forall_not_mem.2 fun token hmem => ?_
    have hend := h.ends token hmem
    have hwithin := (h.slices token hmem).within
    have hpos := Token.length_pos (h.slices token hmem).nonempty
    omega
  · rintro rfl
    exact ⟨Nat.zero_le _, nofun, nofun, .nil, nofun⟩

/-- Where no blank stands, the division begins with a token. -/
theorem IsDivision.exists_first {c : Char} {rest : List Char}
    (h : IsDivision column (c :: rest) stop tokens) (hblank : isBlank c = false)
    (hstop : 0 < stop) : ∃ token others, tokens = token :: others ∧ token.column = column := by
  by_contra hnone
  have hbare : ∀ token ∈ tokens, ¬ token.Covers (column + 0) := by
    rintro token hmem ⟨hbefore, -⟩
    have hwithin := (h.slices token hmem).within
    cases tokens with
    | nil => cases hmem
    | cons first others =>
      -- A token that covers the first column is the first one, since the others stand behind that.
      rcases List.mem_cons.1 hmem with rfl | hmem
      · exact hnone ⟨token, others, rfl, by omega⟩
      · have hfirst := h.slices first List.mem_cons_self
        have hapart := (List.pairwise_cons.1 h.apart).1 token hmem
        have hpos := Token.length_pos hfirst.nonempty
        have hstart := hfirst.within
        omega
  have hc := h.blank 0 hstop hbare c rfl
  rw [hblank] at hc
  cases hc

/-- Behind its first token, a division goes on. -/
theorem IsDivision.behind (h : IsDivision column text stop (token :: others))
    (hstart : token.column = column) :
    token.text.length ≤ stop ∧
      IsDivision (column + token.text.length) (text.drop token.text.length)
        (stop - token.text.length) others := by
  have hend := h.ends token List.mem_cons_self
  have hlength : token.text.length ≤ stop := by omega
  refine ⟨hlength, IsDivision.drop [token] h hlength ?_ ?_⟩
  · exact List.forall_mem_singleton.2 (by omega)
  · intro next hmem
    rw [← hstart]
    exact (List.pairwise_cons.1 h.apart).1 next hmem

/-! ## Where nothing can be taken

  A flaw is a statement about what is not there, so it excludes every token at its place.  Together
  with the fact that there is one longest piece only, this makes the outcome of dividing unique. -/

variable {whole : List Char} {flaw : Flaw}

/-- Of two longest pieces each is no longer than the other. -/
theorem IsLongest.unique {other : Nat} (h : IsLongest text length) (hother : IsLongest text other) :
    length = other := by
  have hle := h.longest _ hother.piece (List.take_prefix _ _)
  have hge := hother.longest _ h.piece (List.take_prefix _ _)
  rw [List.length_take, Nat.min_eq_left hother.within] at hle
  rw [List.length_take, Nat.min_eq_left h.within] at hge
  exact Nat.le_antisymm hge hle

/-- A longest piece has a character, as every piece has. -/
theorem IsLongest.pos (h : IsLongest text length) : 0 < length := by
  obtain ⟨c, rest, hcons, -⟩ := h.piece.sorts
  refine Nat.pos_of_ne_zero ?_
  rintro rfl
  cases hcons

/-- Where a piece stands there is no blank. -/
theorem IsPiece.of_prefix {piece : List Char} (h : IsPiece piece) (hpre : piece <+: text) :
    ∃ c rest, text = c :: rest ∧ isBlank c = false := by
  obtain ⟨c, others, rfl, -⟩ := h.sorts
  obtain ⟨tail, rfl⟩ := hpre
  exact ⟨c, others ++ tail, rfl, h.not_isBlank⟩

/-- Where nothing can be taken there is a character, and that is no blank. -/
theorem IsStuck.not_isBlank (h : IsStuck whole column text flaw) :
    ∃ c rest, text = c :: rest ∧ isBlank c = false := by
  cases h with
  | character hblank _ => exact ⟨_, _, rfl, hblank⟩
  | word _ hpre hword _ => exact IsPiece.of_prefix (.inr hword) hpre

/-- The flaw shows where nothing can be taken. -/
theorem IsStuck.column_eq (h : IsStuck whole column text flaw) : flaw.column = column := by
  cases h <;> rfl

/-- A word that is none of the five spells nothing. -/
theorem not_isSpelled_of_other {word : List Char} (hword : isWord word = true)
    (hother : ∀ entry ∈ wordTable, String.ofList (word.map Char.toLower) ≠ entry.1)
    (symbol : Symbol) : ¬ IsSpelled word symbol := by
  intro hspelled
  obtain ⟨small, hsmall, hmem⟩ :=
    wordSymbol?_eq_some_iff.1 ((isSpelled_iff_of_isWord hword).1 hspelled)
  exact hother _ hmem hsmall

/-- Where nothing can be taken, the longest piece, if there is one, spells nothing. -/
theorem IsStuck.not_isSpelled (h : IsStuck whole column text flaw)
    (hlongest : IsLongest text length) (symbol : Symbol) :
    ¬ IsSpelled (text.take length) symbol := by
  cases h with
  | character _ hnone => exact absurd hlongest.piece (hnone _ (List.take_prefix _ _))
  | @word rest word hword hpre hisWord hother =>
    rw [hlongest.unique hword, ← List.prefix_iff_eq_take.1 hpre]
    exact not_isSpelled_of_other hisWord hother symbol

/-- There is one flaw at a place, if there is one. -/
theorem IsStuck.unique {other : Flaw} (h : IsStuck whole column text flaw)
    (hother : IsStuck whole column text other) : flaw = other := by
  cases h with
  | character _ hnone =>
    cases hother with
    | character => rfl
    | word _ hpre hword _ => exact absurd (.inr hword) (hnone _ hpre)
  | word hlongest hpre hword _ =>
    cases hother with
    | character _ hnone => exact absurd (.inr hword) (hnone _ hpre)
    | word hlongest' hpre' _ _ =>
      rw [List.prefix_iff_eq_take.1 hpre, List.prefix_iff_eq_take.1 hpre',
        hlongest.unique hlongest']

/-- Where nothing can be taken, nothing is divided. -/
theorem IsDivision.stop_of_isStuck (h : IsDivision column text stop tokens)
    (hstuck : IsStuck whole column text flaw) : stop = 0 := by
  by_contra hstop
  obtain ⟨c, rest, rfl, hblank⟩ := hstuck.not_isBlank
  obtain ⟨token, others, rfl, hstart⟩ := h.exists_first hblank (Nat.pos_of_ne_zero hstop)
  have hslice := h.slices token List.mem_cons_self
  have hlongest := hslice.longest
  have htaken := hslice.slice
  rw [hstart, Nat.sub_self, List.drop_zero] at hlongest htaken
  exact hstuck.not_isSpelled hlongest token.symbol (htaken ▸ hslice.spelled)

/-! ## Step by step

  Three lemmas, for the three ways in which scanning can go on: the end of the text, a blank, and a
  token or a flaw.  Each says what may come of dividing in terms of what may come of dividing the
  rest. -/

variable {result : Except Flaw (List Token)}

theorem isScanned_nil : IsScanned whole column [] result ↔ result = .ok [] := by
  cases result with
  | ok tokens =>
    rw [Except.ok.injEq]
    exact isDivision_zero
  | error flaw =>
    refine iff_of_false ?_ nofun
    rintro ⟨tokens, place, -, hstuck⟩
    obtain ⟨c, rest, hcons, -⟩ := hstuck.not_isBlank
    rw [List.drop_nil] at hcons
    cases hcons

/-- Where nothing can be taken, the flaw is all that may come of it. -/
theorem isScanned_of_isStuck (hstuck : IsStuck whole column text flaw) :
    IsScanned whole column text result ↔ result = .error flaw := by
  cases result with
  | ok tokens =>
    refine iff_of_false (fun h => ?_) nofun
    obtain ⟨c, rest, rfl, -⟩ := hstuck.not_isBlank
    cases IsDivision.stop_of_isStuck h hstuck
  | error other =>
    rw [Except.error.injEq]
    constructor
    · rintro ⟨tokens, place, hdivision, hother⟩
      obtain rfl := hdivision.stop_of_isStuck hstuck
      exact IsStuck.unique hother hstuck
    · rintro rfl
      exact ⟨[], 0, isDivision_zero.2 rfl, hstuck⟩

/-- A blank is passed over. -/
theorem isScanned_blank {c : Char} (hblank : isBlank c = true) :
    IsScanned whole column (c :: text) result ↔ IsScanned whole (column + 1) text result := by
  -- No token covers a blank, so all of them stand behind it.
  have hbehind : ∀ {stop tokens}, IsDivision column (c :: text) (stop + 1) tokens →
      IsDivision (column + 1) text stop tokens := by
    intro stop tokens h
    refine h.drop [] (Nat.le_add_left 1 stop) nofun fun token hmem => ?_
    have hslice := h.slices token hmem
    by_contra hbefore
    have hstart : token.column = column := by
      have hwithin := hslice.within
      omega
    have hlongest := hslice.longest
    rw [hstart, Nat.sub_self, List.drop_zero] at hlongest
    obtain ⟨d, rest, hcons, hd⟩ := hlongest.piece.of_prefix (List.take_prefix _ _)
    cases hcons
    rw [hblank] at hd
    cases hd
  cases result with
  | ok tokens => exact ⟨hbehind, .after_blank hblank⟩
  | error flaw =>
    constructor
    · rintro ⟨tokens, place, hdivision, hstuck⟩
      cases place with
      | zero =>
        obtain ⟨d, rest, hcons, hd⟩ := hstuck.not_isBlank
        cases hcons
        rw [hblank] at hd
        cases hd
      | succ place =>
        refine ⟨tokens, place, hbehind hdivision, ?_⟩
        rw [Nat.add_right_comm]
        exact hstuck
    · rintro ⟨tokens, place, hdivision, hstuck⟩
      refine ⟨tokens, place + 1, hdivision.after_blank hblank, ?_⟩
      rw [Nat.add_right_comm] at hstuck
      exact hstuck

section

variable {symbol : Symbol} (hlongest : IsLongest text length)
  (hspelled : IsSpelled (text.take length) symbol)

include hlongest in
theorem length_ofList_take : (String.ofList (text.take length)).length = length := by
  rw [String.length_ofList, List.length_take, Nat.min_eq_left hlongest.within]

include hlongest hspelled

/-- The longest piece, if it spells a symbol, is the slice for a token. -/
theorem isSlice_of_isLongest :
    Token.IsSlice column text ⟨symbol, String.ofList (text.take length), column⟩ where
  within := Nat.le_refl column
  nonempty := by
    obtain ⟨c, rest, hcons, -⟩ := hlongest.piece.sorts
    rw [hcons]
    exact fun h => List.cons_ne_nil c rest (String.ofList_eq_empty_iff.1 h)
  slice := by
    rw [length_ofList_take hlongest, String.toList_ofList, Nat.sub_self, List.drop_zero]
  longest := by
    rwa [length_ofList_take hlongest, Nat.sub_self, List.drop_zero]
  spelled := by rwa [String.toList_ofList]

/-- Where a token can be taken, a division begins with it. -/
theorem IsDivision.first_token (h : IsDivision column text stop tokens) (hstop : 0 < stop) :
    ∃ others, tokens = ⟨symbol, String.ofList (text.take length), column⟩ :: others ∧
      length ≤ stop ∧ IsDivision (column + length) (text.drop length) (stop - length) others := by
  obtain ⟨c, rest, rfl, hblank⟩ := hlongest.piece.of_prefix (List.take_prefix _ _)
  obtain ⟨⟨itsSymbol, itsText, itsColumn⟩, others, rfl, hstart⟩ := h.exists_first hblank hstop
  obtain ⟨hlength, hrest⟩ := h.behind hstart
  obtain ⟨-, -, hslice, hlong, hspells⟩ := h.slices _ List.mem_cons_self
  dsimp only at hstart hlength hrest hslice hlong hspells
  subst hstart
  rw [Nat.sub_self, List.drop_zero] at hslice hlong
  obtain rfl := hlongest.unique hlong
  rw [hslice] at hspells
  obtain rfl := hspelled.unique hspells
  refine ⟨others, ?_, hlength, hrest⟩
  rw [← hslice, String.ofList_toList]

/-- A token is taken. -/
theorem isScanned_token :
    IsScanned whole column text result ↔ ∃ later,
      result = later.map (⟨symbol, String.ofList (text.take length), column⟩ :: ·) ∧
        IsScanned whole (column + length) (text.drop length) later := by
  have hslice : Token.IsSlice column text ⟨symbol, String.ofList (text.take length), column⟩ :=
    isSlice_of_isLongest hlongest hspelled
  have hlength := length_ofList_take hlongest
  have hpos : 0 < length := hlongest.pos
  have hbefore : ∀ {stop others}, IsDivision (column + length) (text.drop length) stop others →
      IsDivision column text (length + stop)
        (⟨symbol, String.ofList (text.take length), column⟩ :: others) := by
    intro stop others h
    have hwhole := @IsDivision.after_token column stop text _ others hslice rfl
    rw [hlength] at hwhole
    exact hwhole h
  have htext : length + (text.drop length).length = text.length := by
    rw [List.length_drop, Nat.add_sub_cancel' hlongest.within]
  constructor
  · intro h
    cases result with
    | ok tokens =>
      obtain ⟨others, rfl, -, hothers⟩ :=
        IsDivision.first_token hlongest hspelled h (Nat.lt_of_lt_of_le hpos hlongest.within)
      refine ⟨.ok others, rfl, ?_⟩
      show IsDivision _ _ _ _
      rwa [List.length_drop]
    | error flaw =>
      obtain ⟨tokens, place, hdivision, hstuck⟩ := h
      -- The flaw cannot show right here, since something can be taken.
      have hplace : 0 < place := by
        refine Nat.pos_of_ne_zero ?_
        rintro rfl
        exact hstuck.not_isSpelled hlongest symbol hspelled
      obtain ⟨others, rfl, hle, hothers⟩ :=
        IsDivision.first_token hlongest hspelled hdivision hplace
      refine ⟨.error flaw, rfl, others, place - length, hothers, ?_⟩
      rw [List.drop_drop, Nat.add_assoc, Nat.add_sub_cancel' hle]
      exact hstuck
  · rintro ⟨later, rfl, h⟩
    cases later with
    | ok others =>
      show IsDivision _ _ _ _
      rw [← htext]
      exact hbefore h
    | error flaw =>
      obtain ⟨others, place, hdivision, hstuck⟩ := h
      refine ⟨_, length + place, hbefore hdivision, ?_⟩
      rw [List.drop_drop, Nat.add_assoc] at hstuck
      exact hstuck

end

end

/-! ## Scanning

  The function skips the rest of a token one character at a time.  The induction is on the length of
  the text, so that it can go on behind a token at once. -/

/-- **Scanning from any place**: what comes of it, tokens or a flaw, is all that may come of it. By
    induction on the length of the text. -/
theorem isScanned_iff (whole : List Char) (column : Nat) (text : List Char)
    (result : Except Flaw (List Token)) :
    IsScanned whole column text result ↔ Token.scanFrom whole column 0 text = result := by
  induction hlength : text.length using Nat.strongRecOn generalizing column text result with
  | ind n ih =>
  cases text with
  | nil => rw [isScanned_nil, Token.scanFrom, eq_comm]
  | cons c rest =>
    rw [Token.scanFrom]
    by_cases hblank : isBlank c = true
    · rw [if_pos hblank, isScanned_blank hblank]
      exact ih rest.length (hlength ▸ Nat.lt_succ_self _) _ _ _ rfl
    · rw [if_neg hblank]
      have hfound := isFound_of_lexeme? (c :: rest)
      cases hlexeme : lexeme? (c :: rest) with
      | none =>
        rw [hlexeme] at hfound
        rw [isScanned_of_isStuck (.character (Bool.not_eq_true _ ▸ hblank) hfound), eq_comm]
      | some lexeme =>
        rw [hlexeme] at hfound
        obtain ⟨symbol, length⟩ := lexeme
        obtain ⟨hlongest, hsymbol⟩ := hfound
        dsimp only at hlongest hsymbol
        cases symbol with
        | some symbol =>
          have hpos : 0 < length := hlongest.pos
          have hless : ((c :: rest).drop length).length < n := by
            rw [← hlength, List.length_drop, List.length_cons]
            omega
          -- The characters of the token are skipped one by one, and that comes to scanning behind
          -- it.
          have hrest : Token.scanFrom whole (column + 1) (length - 1) rest =
              Token.scanFrom whole (column + length) 0 ((c :: rest).drop length) := by
            obtain ⟨taken, rfl⟩ : ∃ taken, length = taken + 1 := ⟨length - 1, by omega⟩
            rw [scanFrom_drop, List.drop_succ_cons, Nat.add_sub_cancel, Nat.add_assoc,
              Nat.add_comm 1]
          rw [isScanned_token hlongest ((hsymbol symbol).1 rfl)]
          dsimp only
          rw [hrest]
          constructor
          · rintro ⟨later, rfl, hlater⟩
            rw [(ih _ hless _ _ _ rfl).1 hlater]
          · rintro rfl
            exact ⟨_, rfl, (ih _ hless _ _ _ rfl).2 rfl⟩
        | none =>
          -- The longest piece spells nothing, so it is a word of the wrong kind.
          have hnone : ∀ symbol, ¬ IsSpelled ((c :: rest).take length) symbol :=
            fun symbol hspelled => Option.some_ne_none symbol ((hsymbol symbol).2 hspelled).symm
          have hword : isWord ((c :: rest).take length) = true := by
            rcases hlongest.piece with ⟨symbol, hspelled⟩ | hword
            · exact absurd hspelled (hnone symbol)
            · exact hword
          have hwhole : IsLongest (c :: rest) ((c :: rest).take length).length := by
            rwa [List.length_take, Nat.min_eq_left hlongest.within]
          have hother : ∀ entry ∈ wordTable,
              String.ofList (((c :: rest).take length).map Char.toLower) ≠ entry.1 :=
            fun entry hentry hsmall => hnone entry.2 (.word hword hsmall hentry)
          rw [isScanned_of_isStuck (.word hwhole (List.take_prefix _ _) hword hother), eq_comm]

/-! ## What the tokens of a division are like

  Two consequences of taking the longest piece, which a reader of conditions might wonder about. -/

section

variable {column : Nat} {text : List Char} {token : Token}

/-- A mark of negation is not the beginning of a comparison. -/
theorem Token.IsSlice.next_of_not (h : token.IsSlice column text) (hnot : token.text = "!") :
    text[token.column - column + 1]? ≠ some '=' := by
  intro hequal
  have hlongest := h.longest
  have hslice := h.slice
  rw [hnot] at hlongest hslice
  rw [← List.getElem?_drop] at hequal
  cases hrest : text.drop (token.column - column) with
  | nil =>
    rw [hrest] at hequal
    cases hequal
  | cons c others =>
    rw [hrest] at hlongest hslice hequal
    obtain rfl : '!' = c := (List.cons.inj hslice).1
    obtain ⟨tail, rfl⟩ : ∃ tail, others = '=' :: tail := List.head?_eq_some_iff.1
      (List.head?_eq_getElem?.trans hequal)
    have hpiece : IsPiece "!=".toList :=
      .inl ⟨.relation .unequal, @IsSpelled.mark "!=" _ (by decide)⟩
    exact absurd (hlongest.longest _ hpiece ⟨tail, rfl⟩) (by decide)

/-- Behind a sign there are digits. -/
theorem digits_of_sign {sign : Char} {digits : List Char} {n : Int}
    (h : SpellsInteger (sign :: digits) n) (hsign : sign = '+' ∨ sign = '-') :
    ∃ k, SpellsNatural digits k := by
  cases h with
  | unsigned h =>
    rcases hsign with rfl | rfl
    · exact absurd rfl h.not_sign.2
    · exact absurd rfl h.not_sign.1
  | plus h => exact ⟨_, h⟩
  | minus h => exact ⟨_, h⟩

/-- A sign and digits are a number. -/
theorem exists_spellsInteger_of_sign {sign : Char} {digits : List Char}
    (hsign : sign = '+' ∨ sign = '-') (hsome : digits ≠ [])
    (hdigits : ∀ c ∈ digits, isDecimal c = true) : ∃ n, SpellsInteger (sign :: digits) n := by
  have hnatural : SpellsNatural digits (digitsValue digits) :=
    readNatural?_eq_some_iff.1 (readNatural?_eq_some.2 ⟨hsome, hdigits, rfl⟩)
  rcases hsign with rfl | rfl
  · exact ⟨_, .plus hnatural⟩
  · exact ⟨_, .minus hnatural⟩

/-- A sign that a token begins with is the sign of a number, and all digits behind it belong to the
    token. -/
theorem Token.IsSlice.integer_of_sign {sign : Char} {digits : List Char}
    (h : token.IsSlice column text) (hsign : sign = '+' ∨ sign = '-')
    (htext : token.text.toList = sign :: digits) :
    ∃ n, token.symbol = .integer n ∧ digits ≠ [] ∧
      digits = (text.drop (token.column - column + 1)).takeWhile isDecimal := by
  have hlongest := h.longest
  have hspelled := h.spelled
  have hpre : sign :: digits <+: text.drop (token.column - column) := by
    rw [← htext, h.slice]
    exact List.take_prefix _ _
  rw [← String.length_toList, htext] at hlongest
  rw [htext] at hspelled
  rw [← List.drop_drop]
  generalize text.drop (token.column - column) = rest at hlongest hpre
  obtain ⟨tail, rfl⟩ := hpre
  obtain ⟨n, hn⟩ : ∃ n, SpellsInteger (sign :: digits) n :=
    IsPiece.number (.inl ⟨_, hspelled⟩) List.prefix_rfl (hsign.imp_right .inl)
  obtain ⟨k, hk⟩ := digits_of_sign hn hsign
  have hsome := (readNatural?_eq_some.1 (readNatural?_eq_some_iff.2 hk)).1
  refine ⟨n, hspelled.unique (.integer hn), hsome, ?_⟩
  rw [List.cons_append, List.drop_one, List.tail_cons]
  -- The digits behind the sign are a number with it, and that is no longer than the token.
  have hle := length_le_takeWhile (List.prefix_append digits tail) hk.isDecimal
  have hge : (sign :: (digits ++ tail).takeWhile isDecimal).length ≤ (sign :: digits).length := by
    refine hlongest.longest _ (.inl ?_) (List.cons_prefix_cons.2 ⟨rfl, List.takeWhile_prefix _⟩)
    obtain ⟨m, hm⟩ := exists_spellsInteger_of_sign hsign
      (List.ne_nil_of_length_pos (Nat.lt_of_lt_of_le (List.length_pos_iff.2 hsome) hle))
      (List.all_eq_true.1 List.all_takeWhile)
    exact ⟨_, .integer hm⟩
  exact (List.prefix_of_prefix_length_le (List.prefix_append digits tail)
    (List.takeWhile_prefix _) hle).eq_of_length_le (Nat.le_of_succ_le_succ hge)

end

/-- **A condition is divided without loss.** -/
theorem scan_iff_isDivision (column : Nat) (text : List Char) :
    (∀ tokens, Token.scan column text = .ok tokens ↔ IsDivision column text text.length tokens) ∧
    (∀ flaw, Token.scan column text = .error flaw ↔
      ∃ tokens place, IsDivision column text place tokens ∧
        IsStuck text (column + place) (text.drop place) flaw ∧ flaw.column = column + place) ∧
    ∀ stop tokens, IsDivision column text stop tokens → ∀ token ∈ tokens,
      (token.text = "!" → text[token.column - column + 1]? ≠ some '=') ∧
      ∀ sign digits, sign = '+' ∨ sign = '-' → token.text.toList = sign :: digits →
        ∃ n, token.symbol = .integer n ∧ digits ≠ [] ∧
          digits = (text.drop (token.column - column + 1)).takeWhile isDecimal := by
  refine ⟨fun tokens => (isScanned_iff text column text (.ok tokens)).symm, fun flaw => ?_,
    fun stop tokens h token hmem => ⟨(h.slices token hmem).next_of_not,
      fun sign digits => (h.slices token hmem).integer_of_sign⟩⟩
  rw [Token.scan, ← isScanned_iff text column text (.error flaw)]
  constructor
  · rintro ⟨tokens, place, hdivision, hstuck⟩
    exact ⟨tokens, place, hdivision, hstuck, hstuck.column_eq⟩
  · rintro ⟨tokens, place, hdivision, hstuck, -⟩
    exact ⟨tokens, place, hdivision, hstuck⟩

theorem isDivision_signed :
    IsDivision 5 "+3!= Not".toList 8
      [⟨.integer 3, "+3", 5⟩, ⟨.relation .unequal, "!=", 7⟩, ⟨.not, "Not", 10⟩] :=
  ((scan_iff_isDivision 5 "+3!= Not".toList).1 _).1 (by decide +kernel)

end Gamebook.Markup
