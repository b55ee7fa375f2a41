/-
  What the state directives do.

  The state directives have a table: which words may follow each of the verbs, and what becomes of
  the flag or the counter that is named.  The table is written down here as it stands
  (`Prescribes`), with numbers spelled by decimal digits of any script (`SpellsInteger`), and it
  knows nothing of operations, amounts or defaults.  The reader and the play agree with it:

  * `words_of_directive` and `exists_directive_of_words`: the words of a directive line are its mark
    and keyword, and then the words of its arguments; the blanks between them do not matter.
  * `prescribes_of_readChange`: what the reader makes of a directive has the effect of a row.
  * `readChange_of_prescribes`: every row is read, as a change with its effect.
  * `Play.changes_as_written`: so the state changes by the table alone.  The rest is said by the
    nodes that are passed and the blocks that are entered (`Play.Writes`).
-/
import Gamebook.Proofs.DescribedCondition
import Gamebook.Proofs.GrantedTokens
import Gamebook.Proofs.StateWrites
import Gamebook.Proofs.TextPieces

namespace Gamebook.Text

/-! ## The numbers that digits spell

  A number is spelled from behind: its last digit counts once, and everything in front of it ten
  times.  This is how the value of digits is computed, too, so the proofs are by induction from the
  right. -/

/-- Decimal digits that spell a number: the last one counts once, those before it ten times. -/
inductive SpellsNatural : List Char → Nat → Prop
  | digit {c : Char} {n : Nat} (hdigit : digitValue? c = some n) : SpellsNatural [c] n
  | more {digits : List Char} {c : Char} {n d : Nat} (hdigits : SpellsNatural digits n)
      (hlast : digitValue? c = some d) : SpellsNatural (digits ++ [c]) (10 * n + d)

/-- Digits with a sign, or without one, that spell a number. -/
inductive SpellsInteger : List Char → Int → Prop
  | unsigned {digits : List Char} {n : Nat} (h : SpellsNatural digits n) : SpellsInteger digits n
  | plus {digits : List Char} {n : Nat} (h : SpellsNatural digits n) :
      SpellsInteger ('+' :: digits) n
  | minus {digits : List Char} {n : Nat} (h : SpellsNatural digits n) :
      SpellsInteger ('-' :: digits) (-n)

theorem readNatural?_eq_some {text : List Char} {n : Nat} :
    readNatural? text = some n ↔
      text ≠ [] ∧ (∀ c ∈ text, isDecimal c = true) ∧ digitsValue text = n := by
  rw [readNatural?, ← List.all_eq_true]
  cases text <;> simp

theorem digitsValue_concat (digits : List Char) (c : Char) :
    digitsValue (digits ++ [c]) = 10 * digitsValue digits + (digitValue? c).getD 0 :=
  List.foldl_concat _ _ _ _

/-- What spells a number is made of decimal digits. -/
theorem SpellsNatural.isDecimal {text : List Char} {n : Nat} (h : SpellsNatural text n) :
    ∀ c ∈ text, isDecimal c = true := by
  induction h with
  | digit hdigit =>
    refine List.forall_mem_singleton.2 ?_
    rw [Text.isDecimal, hdigit, Option.isSome_some]
  | more _ hlast ih =>
    refine List.forall_mem_append.2 ⟨ih, List.forall_mem_singleton.2 ?_⟩
    rw [Text.isDecimal, hlast, Option.isSome_some]

/-- **Digits are read as the number that they spell.** -/
theorem readNatural?_eq_some_iff {text : List Char} {n : Nat} :
    readNatural? text = some n ↔ SpellsNatural text n := by
  rw [readNatural?_eq_some]
  constructor
  · rintro ⟨hsome, hdigits, rfl⟩
    induction text using List.reverseRecOn with
    | nil => exact absurd rfl hsome
    | append_singleton digits c ih =>
      obtain ⟨hothers, hlast⟩ := List.forall_mem_append.1 hdigits
      have hc : isDecimal c = true := hlast c (List.mem_singleton.2 rfl)
      obtain ⟨d, hd⟩ := Option.isSome_iff_exists.1 hc
      rw [digitsValue_concat, hd, Option.getD_some]
      -- One digit by itself is the base case; the reader has none for no digits at all.
      by_cases hone : digits = []
      · subst hone
        rw [List.nil_append, show 10 * digitsValue [] + d = d from Nat.zero_add d]
        exact .digit hd
      · exact .more (ih hone hothers) hd
  · intro h
    refine ⟨?_, h.isDecimal, ?_⟩
    · cases h with
      | digit _ => exact List.cons_ne_nil _ _
      | more _ _ => exact List.append_ne_nil_of_right_ne_nil _ (List.cons_ne_nil _ _)
    · induction h with
      | @digit c n hdigit =>
        rw [show [c] = [] ++ [c] from rfl, digitsValue_concat, hdigit]
        exact Nat.zero_add n
      | more _ hlast ih => rw [digitsValue_concat, ih, hlast, Option.getD_some]

/-- A sign is no digit. -/
theorem SpellsNatural.not_sign {c : Char} {rest : List Char} {n : Nat}
    (h : SpellsNatural (c :: rest) n) : c ≠ '-' ∧ c ≠ '+' := by
  have hdigit := h.isDecimal c List.mem_cons_self
  constructor <;> rintro rfl <;> exact absurd hdigit (by decide)

/-- **A number is read as the integer that its digits spell.** -/
theorem readInteger?_eq_some_iff {text : List Char} {n : Int} :
    readInteger? text = some n ↔ SpellsInteger text n := by
  constructor
  · intro h
    rw [readInteger?.eq_def] at h
    split at h
    next =>
      obtain ⟨_, hmapped, rfl⟩ := Option.map_eq_some_iff.1 h
      obtain ⟨k, hread, hk⟩ := Option.bind_eq_some_iff.1 hmapped
      cases hk
      exact .minus (readNatural?_eq_some_iff.1 hread)
    next =>
      obtain ⟨k, hread, rfl⟩ := Option.map_eq_some_iff.1 h
      exact .plus (readNatural?_eq_some_iff.1 hread)
    next =>
      obtain ⟨k, hread, rfl⟩ := Option.map_eq_some_iff.1 h
      exact .unsigned (readNatural?_eq_some_iff.1 hread)
  · intro h
    cases h with
    | unsigned h =>
      rw [readInteger?, readNatural?_eq_some_iff.2 h]
      · rfl
      · rintro digits rfl
        exact h.not_sign.1 rfl
      · rintro digits rfl
        exact h.not_sign.2 rfl
    | plus h =>
      rw [readInteger?, readNatural?_eq_some_iff.2 h]
      rfl
    | minus h =>
      rw [readInteger?, readNatural?_eq_some_iff.2 h]
      rfl

end Gamebook.Text

namespace Gamebook

/-! ## Effects

  An effect says of the one flag or counter that it names what is stored for it afterwards, and of
  everything else that it is kept.  What is stored is a function of what was read before, and zero
  is read where nothing was stored. -/

/-- What becomes of one flag or one counter. -/
inductive StateEffect where
  | flag (name : String) (value : Bool)
  | counter (name : String) (turn : Int → Int)

namespace StateEffect

/-- The one state comes from the other by the effect, and all that it does not name is as it was. -/
def Turns (effect : StateEffect) (before after : State) : Prop :=
  after.progress = before.progress ∧ after.name = before.name ∧
    match effect with
    | .flag name value =>
      after.flags.get? name = some value ∧ after.counters = before.counters ∧
        ∀ other, other ≠ name → after.flags.get? other = before.flags.get? other
    | .counter name turn =>
      after.counters.get? name = some (turn (before.counter name)) ∧ after.flags = before.flags ∧
        ∀ other, other ≠ name → after.counters.get? other = before.counters.get? other

/-- The change can be made in every state, and has the effect there. -/
def IsOf (effect : StateEffect) (change : StateChange) : Prop :=
  ∀ state, ∃ after, change.apply state = .ok after ∧ effect.Turns state after

/-- Storing a flag has the effect of storing it, and no other. -/
theorem turns_setFlag (state : State) (name : String) (value : Bool) :
    (StateEffect.flag name value).Turns state (state.setFlag name value) := by
  refine ⟨rfl, rfl, ?_, rfl, fun other hother => ?_⟩
  · exact (Table.get?_insert _ _ _ _).trans (if_pos rfl)
  · exact (Table.get?_insert _ _ _ _).trans (if_neg hother)

/-- Storing a counter has the effect of storing it, and no other. -/
theorem turns_setCounter (state : State) (name : String) (turn : Int → Int) :
    (StateEffect.counter name turn).Turns state
      (state.setCounter name (turn (state.counter name))) := by
  refine ⟨rfl, rfl, ?_, rfl, fun other hother => ?_⟩
  · exact (Table.get?_insert _ _ _ _).trans (if_pos rfl)
  · exact (Table.get?_insert _ _ _ _).trans (if_neg hother)

theorem IsOf.setFlag (name : String) : (flag name true).IsOf ⟨.setFlag, name, none⟩ :=
  fun state => ⟨_, rfl, turns_setFlag state name true⟩

theorem IsOf.clearFlag (name : String) : (flag name false).IsOf ⟨.clearFlag, name, none⟩ :=
  fun state => ⟨_, rfl, turns_setFlag state name false⟩

theorem IsOf.increment (name : String) (k : Int) :
    (counter name (· + k)).IsOf ⟨.increment, name, some k⟩ :=
  fun state => ⟨_, rfl, turns_setCounter state name (· + k)⟩

theorem IsOf.decrement (name : String) (k : Int) :
    (counter name (· - k)).IsOf ⟨.decrement, name, some k⟩ :=
  fun state => ⟨_, rfl, turns_setCounter state name (· - k)⟩

theorem IsOf.setCounter (name : String) (k : Int) :
    (counter name (fun _ => k)).IsOf ⟨.setCounter, name, some k⟩ :=
  fun state => ⟨_, rfl, turns_setCounter state name (fun _ => k)⟩

end StateEffect

namespace Markup

open Gamebook.Text

/-! ## The table

  One row for each form that a directive may have.  No row has more than two words behind its verb.
-/

/-- How a target is written. -/
def Target.word : Target → List Char
  | .flag name => "flag:".toList ++ name.toList
  | .counter name => "counter:".toList ++ name.toList

/-- The name of a target. -/
def Target.name : Target → String
  | .flag name | .counter name => name

/-- The table of the state directives: the words behind each verb, and their effect. -/
inductive Prescribes : Verb → List (List Char) → StateEffect → Prop
  | setFlag {name : String} (hname : isName name.toList = true) :
      Prescribes .set [Target.word (.flag name)] (.flag name true)
  | setFlagTrue {name : String} (hname : isName name.toList = true) :
      Prescribes .set [Target.word (.flag name), "true".toList] (.flag name true)
  | setFlagFalse {name : String} (hname : isName name.toList = true) :
      Prescribes .set [Target.word (.flag name), "false".toList] (.flag name false)
  | clearFlag {name : String} (hname : isName name.toList = true) :
      Prescribes .clear [Target.word (.flag name)] (.flag name false)
  | increment {name : String} (hname : isName name.toList = true) :
      Prescribes .incr [Target.word (.counter name)] (.counter name (· + 1))
  | incrementBy {name : String} {amount : List Char} {k : Int}
      (hname : isName name.toList = true) (hamount : SpellsInteger amount k) :
      Prescribes .incr [Target.word (.counter name), amount] (.counter name (· + k))
  | decrement {name : String} (hname : isName name.toList = true) :
      Prescribes .decr [Target.word (.counter name)] (.counter name (· - 1))
  | decrementBy {name : String} {amount : List Char} {k : Int}
      (hname : isName name.toList = true) (hamount : SpellsInteger amount k) :
      Prescribes .decr [Target.word (.counter name), amount] (.counter name (· - k))
  | setCounter {name : String} {amount : List Char} {k : Int}
      (hname : isName name.toList = true) (hamount : SpellsInteger amount k) :
      Prescribes .set [Target.word (.counter name), amount] (.counter name (fun _ => k))

/-! ## Targets and amounts

  The first word is a target and the second one an amount: what is accepted for either is what is
  written for it. -/

/-- What is read as a target is how this target is written. -/
theorem word_of_read {word : List Char} {target : Target} (h : Target.read? word = some target) :
    word = target.word ∧ isName target.name.toList = true := by
  have hread : ∀ (mark : String) {name : List Char}, afterPrefix? mark.toList word = some name →
      isName name = true → word = mark.toList ++ (String.ofList name).toList ∧
        isName (String.ofList name).toList = true := by
    intro mark name hprefix hname
    rw [String.toList_ofList]
    exact ⟨afterPrefix?_eq_some hprefix, hname⟩
  rw [Target.read?] at h
  split at h
  next name hprefix =>
    split at h
    next hname =>
      obtain rfl := Option.some.inj h
      exact hread "flag:" hprefix hname
    next => cases h
  next name _ hprefix =>
    split at h
    next hname =>
      obtain rfl := Option.some.inj h
      exact hread "counter:" hprefix hname
    next => cases h
  next => cases h

/-- What is written for a target is read as this target. -/
theorem read_word {target : Target} (hname : isName target.name.toList = true) :
    Target.read? target.word = some target := by
  cases target with
  | flag name =>
    have hhere := afterPrefix?_append "flag:".toList name.toList
    show Target.read? ("flag:".toList ++ name.toList) = _
    simp only [Target.read?, hhere]
    rw [Target.name] at hname
    rw [if_pos hname, String.ofList_toList]
  | counter name =>
    -- No counter is taken for a flag, as the two marks differ in their first letter.
    have hother : afterPrefix? "flag:".toList ("counter:".toList ++ name.toList) = none := rfl
    have hhere := afterPrefix?_append "counter:".toList name.toList
    show Target.read? ("counter:".toList ++ name.toList) = _
    simp only [Target.read?, hother, hhere]
    rw [Target.name] at hname
    rw [if_pos hname, String.ofList_toList]

/-- An amount is read just if it spells a number, and as that number. -/
theorem amount_eq_ok_iff {operand : Operand} {k : Int} :
    operand.amount = .ok k ↔ SpellsInteger operand.text k := by
  rw [Operand.amount, ← readInteger?_eq_some_iff]
  cases readInteger? operand.text with
  | none => exact ⟨nofun, nofun⟩
  | some found => exact ⟨fun h => congrArg some (Except.ok.inj h), fun h => by cases h; rfl⟩

/-- An operand that is there is read, and one that is not is left out. -/
theorem mapM_amount_eq_ok_iff {operand : Option Operand} {amount : Option Int} :
    operand.mapM Operand.amount = .ok amount ↔
      (operand = none ∧ amount = none) ∨
        ∃ given k, operand = some given ∧ amount = some k ∧ SpellsInteger given.text k := by
  cases operand with
  | none =>
    constructor
    · intro h
      exact .inl ⟨rfl, (Except.ok.inj h).symm⟩
    · rintro (⟨-, rfl⟩ | ⟨given, k, hsome, -⟩)
      · rfl
      · cases hsome
  | some given =>
    show (given.amount >>= fun k => .ok (some k)) = .ok amount ↔ _
    rw [bind_eq_ok_iff]
    constructor
    · rintro ⟨k, hk, hsome⟩
      exact .inr ⟨given, k, rfl, (Except.ok.inj hsome).symm, amount_eq_ok_iff.1 hk⟩
    · rintro (⟨hnone, -⟩ | ⟨_, k, hsame, rfl, hk⟩)
      · cases hnone
      · cases hsame
        exact ⟨k, amount_eq_ok_iff.2 hk, rfl⟩

/-! ## Changes as they are read

  The reader goes by the verb, then by the kind of the target, then by the operand.  Every way
  through it that ends with a change is a row of the table; and each row, given to the reader, takes
  one of these ways. -/

section

variable {verb : Verb} {name : String} {word : Operand} {change : StateChange}

/-- What is read for a flag is a row of the table with its effect. -/
theorem prescribes_of_readFlagChange (hname : isName name.toList = true)
    {operand : Option Operand} (h : readFlagChange verb name word operand = .ok change) :
    ∃ effect, Prescribes verb (Target.word (.flag name) :: (operand.map Operand.text).toList)
      effect ∧ effect.IsOf change := by
  rw [readFlagChange.eq_def] at h
  split at h
  next => cases h
  next => cases h; exact ⟨_, .clearFlag hname, .clearFlag name⟩
  next => cases h; exact ⟨_, .setFlag hname, .setFlag name⟩
  next given =>
    split at h
    next htrue =>
      cases h
      rw [Option.map_some, htrue]
      exact ⟨_, .setFlagTrue hname, .setFlag name⟩
    next =>
      split at h
      next hfalse =>
        cases h
        rw [Option.map_some, hfalse]
        exact ⟨_, .setFlagFalse hname, .clearFlag name⟩
      next => cases h
  next => cases h
  next => cases h

/-- What is read for a counter is a row of the table with its effect. -/
theorem prescribes_of_readCounterChange (hname : isName name.toList = true)
    {operand : Option Operand} (h : readCounterChange verb name word operand = .ok change) :
    ∃ effect, Prescribes verb (Target.word (.counter name) :: (operand.map Operand.text).toList)
      effect ∧ effect.IsOf change := by
  cases verb with
  | clear => cases h
  | set =>
    obtain ⟨amount, hamount, h⟩ := bind_eq_ok_iff.1 h
    rcases mapM_amount_eq_ok_iff.1 hamount with ⟨rfl, rfl⟩ | ⟨given, k, rfl, rfl, hk⟩
    · cases h
    · cases h
      exact ⟨_, .setCounter hname hk, .setCounter name k⟩
  | incr =>
    obtain ⟨amount, hamount, h⟩ := bind_eq_ok_iff.1 h
    rcases mapM_amount_eq_ok_iff.1 hamount with ⟨rfl, rfl⟩ | ⟨given, k, rfl, rfl, hk⟩
    · cases h
      exact ⟨_, .increment hname, .increment name 1⟩
    · cases h
      exact ⟨_, .incrementBy hname hk, .increment name k⟩
  | decr =>
    obtain ⟨amount, hamount, h⟩ := bind_eq_ok_iff.1 h
    rcases mapM_amount_eq_ok_iff.1 hamount with ⟨rfl, rfl⟩ | ⟨given, k, rfl, rfl, hk⟩
    · cases h
      exact ⟨_, .decrement hname, .decrement name 1⟩
    · cases h
      exact ⟨_, .decrementBy hname hk, .decrement name k⟩

end

section

variable {verb : Verb} {column : Nat} {arguments : List Char}

/-- **What the reader accepts is in the table**, and what it makes of it has the effect that stands
    there. -/
theorem prescribes_of_readChange {change : StateChange}
    (h : readChange verb column arguments = .ok change) :
    ∃ effect, Prescribes verb (words arguments) effect ∧ effect.IsOf change := by
  rw [readChange.eq_def] at h
  split at h
  next => cases h
  next first others hwords =>
    cases htarget : Target.read? first with
    | none => simp [htarget] at h
    | some target =>
      simp only [htarget] at h
      obtain ⟨rfl, hname⟩ := word_of_read htarget
      split at h
      next => cases h
      next hfew =>
        -- The one operand that there may be is all that follows the target.
        have hrest : ((others.head?.map fun text => Operand.mk text
            (column + target.word.length + indentation (arguments.drop target.word.length))).map
              Operand.text).toList = others := by
          rcases others with - | ⟨second, - | ⟨third, rest⟩⟩
          · rfl
          · rfl
          · exact absurd (Nat.le_add_left 2 rest.length) hfew
        rw [hwords]
        cases target with
        | flag name => rw [← hrest]; exact prescribes_of_readFlagChange hname h
        | counter name => rw [← hrest]; exact prescribes_of_readCounterChange hname h

/-- The reader looks at the target and at the operand, if there is one. -/
theorem readChange_of_words (verb : Verb) (column : Nat) (target : Target)
    (operand : Option (List Char)) (hwords : words arguments = target.word :: operand.toList)
    (hname : isName target.name.toList = true) :
    ∃ given, readChange verb column arguments =
      match target with
      | .flag name => readFlagChange verb name ⟨target.word, column⟩ (operand.map (⟨·, given⟩))
      | .counter name =>
        readCounterChange verb name ⟨target.word, column⟩ (operand.map (⟨·, given⟩)) := by
  refine ⟨column + target.word.length + indentation (arguments.drop target.word.length), ?_⟩
  rw [readChange, hwords]
  simp only [read_word hname]
  cases operand <;> rfl

/-- An operand that spells a number is read as it. -/
theorem mapM_amount_of_spells {amount : List Char} {k : Int} (h : SpellsInteger amount k)
    (column : Nat) : (some (Operand.mk amount column)).mapM Operand.amount = .ok (some k) :=
  mapM_amount_eq_ok_iff.2 (.inr ⟨_, k, rfl, rfl, h⟩)

/-- **What is in the table is read**, as a change with the effect that stands there. -/
theorem readChange_of_prescribes {effect : StateEffect}
    (h : Prescribes verb (words arguments) effect) :
    ∃ change, readChange verb column arguments = .ok change ∧ effect.IsOf change := by
  generalize hwords : words arguments = line at h
  -- One case for each row: the words are those of the row, so the way through the reader is known.
  cases h with
  | @setFlag name hname =>
    obtain ⟨_, hread⟩ := readChange_of_words .set column (.flag name) none hwords hname
    exact ⟨_, hread, .setFlag name⟩
  | @setFlagTrue name hname =>
    obtain ⟨_, hread⟩ := readChange_of_words .set column (.flag name) (some _) hwords hname
    dsimp only [Option.map_some] at hread
    rw [readFlagChange, if_pos rfl] at hread
    exact ⟨_, hread, .setFlag name⟩
  | @setFlagFalse name hname =>
    obtain ⟨_, hread⟩ := readChange_of_words .set column (.flag name) (some _) hwords hname
    dsimp only [Option.map_some] at hread
    have hfalse : "false".toList ≠ "true".toList := by decide
    rw [readFlagChange, if_neg hfalse, if_pos rfl] at hread
    exact ⟨_, hread, .clearFlag name⟩
  | @clearFlag name hname =>
    obtain ⟨_, hread⟩ := readChange_of_words .clear column (.flag name) none hwords hname
    exact ⟨_, hread, .clearFlag name⟩
  | @increment name hname =>
    obtain ⟨_, hread⟩ := readChange_of_words .incr column (.counter name) none hwords hname
    exact ⟨_, hread, .increment name 1⟩
  | @incrementBy name amount k hname hamount =>
    obtain ⟨given, hread⟩ := readChange_of_words .incr column (.counter name) (some _) hwords hname
    dsimp only [Option.map_some] at hread
    rw [readCounterChange, mapM_amount_of_spells hamount] at hread
    exact ⟨_, hread, .increment name k⟩
  | @decrement name hname =>
    obtain ⟨_, hread⟩ := readChange_of_words .decr column (.counter name) none hwords hname
    exact ⟨_, hread, .decrement name 1⟩
  | @decrementBy name amount k hname hamount =>
    obtain ⟨given, hread⟩ := readChange_of_words .decr column (.counter name) (some _) hwords hname
    dsimp only [Option.map_some] at hread
    rw [readCounterChange, mapM_amount_of_spells hamount] at hread
    exact ⟨_, hread, .decrement name k⟩
  | @setCounter name amount k hname hamount =>
    obtain ⟨given, hread⟩ := readChange_of_words .set column (.counter name) (some _) hwords hname
    dsimp only [Option.map_some] at hread
    rw [readCounterChange, mapM_amount_of_spells hamount] at hread
    exact ⟨_, hread, .setCounter name k⟩

end

/-! ## Directive lines

  A row speaks of words, and a line has blanks.  The line is divided at its blanks and looked up in
  the table; the reader takes off the mark and the keyword first and divides the rest, which comes
  to the same. -/

/-- **The words of a directive line** are its mark and keyword, and those of its arguments. -/
theorem words_of_directive {line : List Char} {directive : Directive}
    (h : Directive.ofLine? line = some directive) :
    words line = (directiveMark :: directive.keyword) :: words directive.arguments := by
  rw [Directive.ofLine?] at h
  split at h
  next => cases h
  next mark body hbody =>
    split at h
    next hmark =>
      cases h
      dsimp only
      -- The mark belongs to the first word, and so does the keyword up to the first blank.
      rw [← words_trim, hbody, hmark, words_cons_of_not_blank (by decide), words_trimLeft]
    next => cases h

/-- A line whose first word begins with the mark is a directive. -/
theorem exists_directive_of_words {line keyword : List Char} {others : List (List Char)}
    (h : words line = (directiveMark :: keyword) :: others) :
    ∃ directive, Directive.ofLine? line = some directive ∧ directive.keyword = keyword ∧
      words directive.arguments = others := by
  -- The first word begins with the mark, so the trimmed line does.
  have hmark : (trim line).head? = some directiveMark := by
    rw [← words_trim] at h
    obtain ⟨c, rest, htrim, -, hword, -⟩ := words_eq_cons h
    rw [trimLeft_eq_self fun _ => isBlank_of_head?_trim] at htrim
    rw [htrim, List.head?_cons, (List.cons.inj hword).1]
  obtain ⟨directive, hline⟩ := Option.isSome_iff_exists.1 ((ofLine?_isSome_iff line).2 hmark)
  obtain ⟨hword, hothers⟩ := List.cons.inj ((words_of_directive hline).symm.trans h)
  exact ⟨directive, hline, (List.cons.inj hword).2, hothers⟩

variable {grammar : Grammar} {line : List Char}

/-- A line that is read as a change is a verb with words that the table has. -/
theorem prescribes_of_says {change : StateChange} (h : Says grammar line (.change change)) :
    ∃ verb arguments effect, verb.text ∈ grammar.keywords ∧
      words line = (directiveMark :: verb.text.toList) :: arguments ∧
      Prescribes verb arguments effect ∧ effect.IsOf change := by
  cases h with
  | @change directive verb _ hline hread =>
    obtain ⟨effect, hrow, heffect⟩ := prescribes_of_readChange hread
    have hwords := words_of_directive hline.divides
    rw [hline.keyword_eq] at hwords
    exact ⟨verb, _, effect, hline.admitted, hwords, hrow, heffect⟩

/-- A line that is a verb with words that the table has is read as a change. -/
theorem says_of_prescribes {verb : Verb} {arguments : List (List Char)} {effect : StateEffect}
    (hverb : verb.text ∈ grammar.keywords)
    (hwords : words line = (directiveMark :: verb.text.toList) :: arguments)
    (hrow : Prescribes verb arguments effect) :
    ∃ change, Says grammar line (.change change) ∧ effect.IsOf change := by
  obtain ⟨directive, hline, hkeyword, rfl⟩ := exists_directive_of_words hwords
  obtain ⟨change, hread, heffect⟩ := readChange_of_prescribes hrow
  exact ⟨change, .change ⟨hline, hkeyword, hverb⟩ hread, heffect⟩

end Markup

/-! ## Plays

  That a step changes the state only where it passes a change is the run lemma of `Play.Writes`.
  What is added here is that the changes are those that the lines of a file can say. -/

/-- A play that comes to a change does what its effect says, and goes on. -/
theorem StateEffect.IsOf.execute {effect : StateEffect} {change : StateChange}
    (h : effect.IsOf change) (play : Play) :
    (play.execute (.change change)).2 = none ∧
      effect.Turns play.state (play.execute (.change change)).1.state := by
  obtain ⟨after, happly, hturns⟩ := h play.state
  rw [Play.execute_change happly]
  refine ⟨rfl, ?_⟩
  split <;> exact hturns

namespace Play

open Gamebook.Text Gamebook.Markup

/-- **The state changes only as the table of the state directives says.** In every play, a step
    keeps every flag and every counter but for those that the node it executes is a change of, and
    the place unless it enters a block; a choice keeps all of them, and the place too unless it
    enters one. So nothing is ever reset: whatever a play is played through, its state is what the
    changes that it passes make of the first one, at the place that it entered last. The lines that
    are read as changes are those of the table, and each of them has the effect that the table gives
    it, in every state. -/
theorem changes_as_written :
    (∀ play : Play,
      play.state.KeptBut play.step.1.state (passed play.stepPassages) play.stepVisits) ∧
    (∀ (play : Play) selection,
      play.state.KeptBut (play.follow selection).1.state [] (play.followVisits selection)) ∧
    (∀ (play : Play) acts, (∀ act ∈ acts, act.writesState = false) →
      (play.performAll acts).state =
        (play.state.replay (passed (play.passages acts))).reach (play.visits acts)) ∧
    (∀ grammar line change, Statement.read grammar line = .ok (.change change) →
      ∃ verb arguments effect, verb.text ∈ grammar.keywords ∧
        words line = (directiveMark :: verb.text.toList) :: arguments ∧
        Prescribes verb arguments effect) ∧
    ∀ grammar line verb arguments effect, verb.text ∈ grammar.keywords →
      words line = (directiveMark :: verb.text.toList) :: arguments →
      Prescribes verb arguments effect →
      ∃ change, Statement.read grammar line = .ok (.change change) ∧
        ∀ play : Play, (play.execute (.change change)).2 = none ∧
          effect.Turns play.state (play.execute (.change change)).1.state := by
  refine ⟨?_, ?_, ?_, ?_, ?_⟩
  · intro play
    exact (writes_step play).keptBut
  · intro play selection
    exact (writes_follow play selection).keptBut
  · intro play acts hacts
    exact writes_performAll play hacts
  · intro grammar line change hread
    obtain ⟨verb, arguments, effect, hverb, hwords, hrow, -⟩ :=
      prescribes_of_says (read_eq_ok_iff.1 hread)
    exact ⟨verb, arguments, effect, hverb, hwords, hrow⟩
  · intro grammar line verb arguments effect hverb hwords hrow
    obtain ⟨change, hsays, heffect⟩ := says_of_prescribes hverb hwords hrow
    exact ⟨change, read_eq_ok_iff.2 hsays, heffect.execute⟩

/-- A market, from whose gate a choice leads to the stalls, where three pieces of gold are spent. -/
def market : Play :=
  { library := ({} : Library).register "market"
      { fileId := "market"
        blocks := [
          { name := "gate", nodes := [.menu [⟨"Enter", .block "stalls", none, []⟩]] },
          { name := "stalls"
            nodes := [.change ⟨.decrement, "gold", some 3⟩, .jump (.block "gate")] }]
        entry := some "gate" } }

/-- Waiting at the gate, with ten pieces of gold. -/
def gate : Play := (market.perform (.setCounter "gold" 10)).perform (.start "market" none)

theorem changes_as_written_market :
    gate.state.KeptBut (gate.follow (.index 0)).1.state [] (gate.followVisits (.index 0)) ∧
      (gate.performAll [.follow (.index 0), .step, .step]).state =
        { counters := (∅ : Table Int).insert "gold" 7, progress := ⟨"market", "gate"⟩ } ∧
      ∃ change, Statement.read {} "  @decr  counter:gold  +٣ ".toList = .ok (.change change) ∧
        (StateEffect.counter "gold" (· - 3)).Turns gate.state
          (gate.execute (.change change)).1.state := by
  obtain ⟨-, hchoice, hplayed, -, hrow⟩ := changes_as_written
  have hspend : Prescribes .decr [Target.word (.counter "gold"), "+٣".toList]
      (.counter "gold" (· - 3)) := .decrementBy (by decide) (.plus (.digit (by decide)))
  obtain ⟨change, hread, heffect⟩ :=
    hrow {} "  @decr  counter:gold  +٣ ".toList .decr _ _ (by decide) (by decide) hspend
  refine ⟨hchoice gate (.index 0), ?_, change, hread, (heffect gate).2⟩
  exact (hplayed gate [.follow (.index 0), .step, .step] (by decide)).trans rfl

end Play
end Gamebook
