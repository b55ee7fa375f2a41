/-
  What the nodes of a file that was read can be.

  The types of nodes, conditions and destinations admit more than story files can say: parts of an
  unknown form, comparisons and operations that are none.  A node that comes from a file is made of
  what the readers of single lines accept, at every depth of its conditionals (`Node.IsRead`,
  `isRead_of_readStory`), and each of these readers gives back only what a play has a meaning for:

  * `isKnown_of_readCondition`: comparisons that are comparisons, and no part of unknown form;
  * `isNamed_of_readDestination`: a block or a file, with names as they may be written;
  * `hasMeaning_of_readChange`: an operation with the amount that belongs to it.
-/
import Gamebook.Proofs.BlockReading

namespace Gamebook

open Markup

/-! ## What readers give back

  Unknown forms and operations without a meaning are there since a program can build such nodes; a
  play meets them as faults.  A reader never builds one. -/

/-- The condition is made of flags, and of counters under comparisons that are comparisons. -/
def Condition.IsKnown : Condition → Prop
  | flag _ _ => True
  | counter _ comparison _ => ∀ symbol, comparison ≠ .other symbol
  | not operand => operand.IsKnown
  | and left right | or left right => left.IsKnown ∧ right.IsKnown
  | unknown _ => False

/-- The destination is a block or a file, and its names are names. -/
def Destination.IsNamed : Destination → Prop
  | block name => isName name.toList = true
  | file id target => isFileName id.toList = true ∧ ∀ name ∈ target, isName name.toList = true
  | unknown _ => False

/-- The operation of the change is one, its target has a name, and it has an amount just when it is
    about a counter. -/
def StateChange.HasMeaning (change : StateChange) : Prop :=
  isName change.target.toList = true ∧
    match change.operation with
    | .setFlag | .clearFlag => change.amount = none
    | .increment | .decrement | .setCounter => change.amount.isSome = true
    | .other _ => False

/-- The choice is what some line was read as. -/
def Choice.IsRead (choice : Choice) : Prop :=
  ∃ column arguments, readOption column arguments = .ok choice

/-- The node is made of what lines were read as, at every depth. -/
inductive Node.IsRead : Node → Prop
  | text (run : TextRun) : IsRead (.text run)
  | change {verb : Verb} {column : Nat} {arguments : List Char} {change : StateChange}
      (hread : readChange verb column arguments = .ok change) : IsRead (.change change)
  | jump {column : Nat} {arguments : List Char} {destination : Destination}
      (hread : readDestination column arguments = .ok destination) : IsRead (.jump destination)
  | menu {choices : List Choice} (hsome : choices ≠ [])
      (hread : ∀ choice ∈ choices, choice.IsRead) : IsRead (.menu choices)
  | conditional {column : Nat} {arguments : List Char} {condition : Condition}
      {thenNodes elseNodes : List Node} (hread : readCondition column arguments = .ok condition)
      (hthen : ∀ node ∈ thenNodes, IsRead node) (helse : ∀ node ∈ elseNodes, IsRead node) :
      IsRead (.conditional condition thenNodes elseNodes)

/-- Every node of the story comes from a line. -/
def Story.IsRead (story : Story) : Prop := ∀ block ∈ story.blocks, ∀ node ∈ block.nodes, node.IsRead

namespace Markup

open Gamebook.Text

/-- Two steps succeed if the first one does and the second one does with what it gave. -/
theorem bind_eq_ok_iff {ε α β : Type} {result : Except ε α} {f : α → Except ε β} {value : β} :
    result >>= f = .ok value ↔ ∃ inner, result = .ok inner ∧ f inner = .ok value := by
  cases result with
  | error e => exact ⟨nofun, nofun⟩
  | ok inner =>
    constructor
    · intro h
      exact ⟨inner, rfl, h⟩
    · rintro ⟨other, h, hf⟩
      cases h
      exact hf

/-! ## Conditions

  The reader of conditions has three levels, and each comes back to the highest one inside
  parentheses; so the induction is on their fuel. -/

/-- What tokens are read as is known. -/
def GivesKnown (result : Except Flaw (Condition × List Token)) : Prop :=
  ∀ condition rest, result = .ok (condition, rest) → condition.IsKnown

theorem isKnown_of_relation (relation : Relation) (name : String) (value : Int) :
    (relation.condition name value).IsKnown := by
  cases relation <;> exact fun symbol h => by cases h

/-- A test of a flag is known, with `== true`, with `== false` or with neither. -/
theorem readFlagTest_known (stop : Nat) (name : String) (tokens : List Token) :
    GivesKnown (readFlagTest stop name tokens) := by
  intro condition rest h
  rw [readFlagTest.eq_def] at h
  split at h
  next =>
    split at h
    next =>
      obtain ⟨⟨token, others⟩, -, h⟩ := bind_eq_ok_iff.1 h
      cases hsymbol : token.symbol <;> simp only [hsymbol] at h <;> cases h
      trivial
    next => cases h
  next => cases h; trivial

/-- A test of a counter has one of the relations, and a number. -/
theorem readCounterTest_known (stop : Nat) (name reference : String) (tokens : List Token) :
    GivesKnown (readCounterTest stop name reference tokens) := by
  intro condition rest h
  obtain ⟨⟨comparison, others⟩, -, h⟩ := bind_eq_ok_iff.1 h
  cases hsymbol : comparison.symbol with
  | relation relation =>
    simp only [hsymbol] at h
    obtain ⟨⟨number, others⟩, -, h⟩ := bind_eq_ok_iff.1 h
    cases hvalue : number.symbol with
    | integer value =>
      simp only [hvalue] at h
      cases h
      exact isKnown_of_relation relation name value
    -- Any other token in the place of the number is a flaw.
    | _ => simp [hvalue] at h
  | _ => simp [hsymbol] at h

/-- What the three levels give back with so much fuel is known. -/
structure LevelsKnown (stop fuel : Nat) : Prop where
  disjunction : ∀ tokens, GivesKnown (readDisjunction stop fuel tokens)
  disjuncts : ∀ left tokens, left.IsKnown → GivesKnown (readMoreDisjuncts stop fuel left tokens)
  conjunction : ∀ tokens, GivesKnown (readConjunction stop fuel tokens)
  conjuncts : ∀ left tokens, left.IsKnown → GivesKnown (readMoreConjuncts stop fuel left tokens)
  negation : ∀ tokens, GivesKnown (readNegation stop fuel tokens)

/-- The lowest level: `not`, parentheses, or a test. -/
theorem readNegation_known {stop fuel : Nat} (ih : LevelsKnown stop fuel) (tokens : List Token) :
    GivesKnown (readNegation stop (fuel + 1) tokens) := by
  intro condition rest h
  rw [readNegation.eq_def] at h
  split at h
  next heq => cases heq
  next heq =>
    cases heq
    obtain ⟨⟨operand, others⟩, hoperand, h⟩ := bind_eq_ok_iff.1 h
    cases h
    exact ih.negation _ operand _ hoperand
  next hfuel _ =>
    cases hfuel
    obtain ⟨⟨token, others⟩, -, h⟩ := bind_eq_ok_iff.1 h
    cases hsymbol : token.symbol with
    -- Between parentheses there is a whole condition again.
    | openParen =>
      simp only [hsymbol] at h
      obtain ⟨⟨inner, others⟩, hinner, h⟩ := bind_eq_ok_iff.1 h
      obtain ⟨⟨closing, others⟩, -, h⟩ := bind_eq_ok_iff.1 h
      split at h
      next => cases h; exact ih.disjunction _ _ _ hinner
      next => cases h
    | flag name => simp only [hsymbol] at h; exact readFlagTest_known _ _ _ _ _ h
    | counter name => simp only [hsymbol] at h; exact readCounterTest_known _ _ _ _ _ _ h
    | _ => simp [hsymbol] at h

/-- All levels give back what is known, whatever the fuel. -/
theorem levelsKnown (stop fuel : Nat) : LevelsKnown stop fuel := by
  -- Every level calls the others with less fuel, so all five go through the induction together.
  induction fuel with
  | zero => constructor <;> intros <;> intro _ _ h <;> cases h
  | succ fuel ih =>
    constructor
    case disjunction =>
      intro tokens condition rest h
      obtain ⟨⟨left, others⟩, hleft, h⟩ := bind_eq_ok_iff.1 h
      exact ih.disjuncts _ _ (ih.conjunction _ _ _ hleft) _ _ h
    case disjuncts =>
      intro left tokens hleft condition rest h
      rw [readMoreDisjuncts.eq_def] at h
      split at h
      next heq => cases heq
      next heq =>
        cases heq
        obtain ⟨⟨right, others⟩, hright, h⟩ := bind_eq_ok_iff.1 h
        exact ih.disjuncts (.or _ right) _ ⟨hleft, ih.conjunction _ _ _ hright⟩ _ _ h
      next => cases h; exact hleft
    case conjunction =>
      intro tokens condition rest h
      obtain ⟨⟨left, others⟩, hleft, h⟩ := bind_eq_ok_iff.1 h
      exact ih.conjuncts _ _ (ih.negation _ _ _ hleft) _ _ h
    case conjuncts =>
      intro left tokens hleft condition rest h
      rw [readMoreConjuncts.eq_def] at h
      split at h
      next heq => cases heq
      next heq =>
        cases heq
        obtain ⟨⟨right, others⟩, hright, h⟩ := bind_eq_ok_iff.1 h
        exact ih.conjuncts (.and _ right) _ ⟨hleft, ih.negation _ _ _ hright⟩ _ _ h
      next => cases h; exact hleft
    case negation => exact readNegation_known ih

/-- A condition that was read is known. -/
theorem isKnown_of_readCondition {column : Nat} {text : List Char} {condition : Condition}
    (h : readCondition column text = .ok condition) : condition.IsKnown := by
  rw [readCondition] at h
  split at h
  next => cases h
  next =>
    obtain ⟨tokens, -, h⟩ := bind_eq_ok_iff.1 h
    obtain ⟨⟨whole, rest⟩, hwhole, h⟩ := bind_eq_ok_iff.1 h
    -- A condition that tokens are left behind is refused.
    cases rest with
    | nil => cases h; exact (levelsKnown _ _).disjunction _ _ _ hwhole
    | cons token others => cases h

/-! ## Destinations

  A text with a colon names a file, and perhaps a block in it; any other text names a block. -/

/-- A destination that was read has names. -/
theorem isNamed_of_readDestination {column : Nat} {text : List Char} {destination : Destination}
    (h : readDestination column text = .ok destination) : destination.IsNamed := by
  simp only [readDestination] at h
  split at h
  next => cases h
  next =>
    split at h
    next =>
      split at h
      next => cases h
      -- The name of the file, in front of the colon, is one.
      next hfile =>
        rw [Bool.not_eq_true, Bool.not_eq_false'] at hfile
        split at h
        next => cases h
        -- The name of the block may be left out; if it stands there it is one.
        next hblock =>
          cases h
          refine ⟨by rwa [String.toList_ofList], fun name hname => ?_⟩
          split at hname
          next => cases hname
          next hempty =>
            cases hname
            rw [String.toList_ofList]
            simpa [hempty] using hblock
    next =>
      split at h
      next hname =>
        cases h
        show isName (String.ofList (trim text)).toList = true
        rwa [String.toList_ofList]
      next => cases h

/-! ## Changes

  The verb, the kind of the target and the operand decide what the change is; each combination that
  makes no sense is refused. -/

/-- A target that was read has a name. -/
theorem isName_of_target {word : List Char} {target : Target}
    (h : Target.read? word = some target) :
    match target with
    | .flag name | .counter name => isName name.toList = true := by
  rw [Target.read?] at h
  split at h
  next =>
    split at h
    next hname =>
      cases h
      exact (congrArg (isName ·) String.toList_ofList).trans hname
    next => cases h
  next =>
    split at h
    next hname =>
      cases h
      exact (congrArg (isName ·) String.toList_ofList).trans hname
    next => cases h
  next => cases h

/-- A change of a flag sets it or clears it, and has no amount. -/
theorem hasMeaning_of_readFlagChange {verb : Verb} {name : String} {word : Operand}
    {operand : Option Operand} {change : StateChange} (hname : isName name.toList = true)
    (h : readFlagChange verb name word operand = .ok change) : change.HasMeaning := by
  rw [readFlagChange.eq_def] at h
  split at h
  next => cases h
  next => cases h; exact ⟨hname, rfl⟩
  next => cases h; exact ⟨hname, rfl⟩
  next =>
    split at h
    next => cases h; exact ⟨hname, rfl⟩
    next =>
      split at h
      next => cases h; exact ⟨hname, rfl⟩
      next => cases h
  next => cases h
  next => cases h

/-- A change of a counter has an amount, which is one if none is written, but a counter is not set
    without one. -/
theorem hasMeaning_of_readCounterChange {verb : Verb} {name : String} {word : Operand}
    {operand : Option Operand} {change : StateChange} (hname : isName name.toList = true)
    (h : readCounterChange verb name word operand = .ok change) : change.HasMeaning := by
  cases verb with
  | clear => cases h
  | set =>
    obtain ⟨amount, -, h⟩ := bind_eq_ok_iff.1 h
    cases amount with
    | none => cases h
    | some amount => cases h; exact ⟨hname, rfl⟩
  | incr =>
    obtain ⟨amount, -, h⟩ := bind_eq_ok_iff.1 h
    cases h
    exact ⟨hname, rfl⟩
  | decr =>
    obtain ⟨amount, -, h⟩ := bind_eq_ok_iff.1 h
    cases h
    exact ⟨hname, rfl⟩

/-- A change that was read has a meaning. -/
theorem hasMeaning_of_readChange {verb : Verb} {column : Nat} {arguments : List Char}
    {change : StateChange} (h : readChange verb column arguments = .ok change) :
    change.HasMeaning := by
  rw [readChange.eq_def] at h
  split at h
  next => cases h
  next first others _ =>
    cases htarget : Target.read? first with
    | none => simp [htarget] at h
    | some target =>
      simp only [htarget] at h
      have hname := isName_of_target htarget
      split at h
      next => cases h
      next =>
        cases target with
        | flag name => exact hasMeaning_of_readFlagChange hname h
        | counter name => exact hasMeaning_of_readCounterChange hname h

/-! ## Options

  An option is taken apart once (`parts_of_readOption`).  What is known of its parts, here and
  wherever choices that were read are spoken of, follows from what their own readers give back. -/

/-- A guard is what the condition behind the word `if` is read as. -/
theorem exists_condition_of_readGuard {column : Nat} {target rest : List Char} {guard : Condition}
    (h : readGuard column target rest = .ok (some guard)) :
    ∃ column condition, readCondition column condition = .ok guard := by
  simp only [readGuard] at h
  split at h
  next => cases h
  next =>
    split at h
    next => cases h
    next =>
      obtain ⟨condition, hcondition, heq⟩ := map_eq_ok_iff.1 h
      cases heq
      exact ⟨_, _, hcondition⟩

/-- **What a choice that was read comes from.** The last arrow of the line divides it; the other
    facts about choices that were read are facts about these parts. -/
theorem parts_of_readOption {column : Nat} {arguments : List Char} {choice : Choice}
    (h : readOption column arguments = .ok choice) :
    ∃ before after label, splitLast? "->".toList arguments = some (before, after) ∧
      -- In front of the arrow there are the label, which is not empty, and the keywords.
      readLabel column before = .ok (label, choice.keywords) ∧
      choice.label = String.ofList (trim label) ∧ (trim label).isEmpty = false ∧
      -- Behind it there is the destination, and perhaps a condition after that.
      (∃ column token, readDestination column token = .ok choice.destination) ∧
      ∀ guard, choice.guard = some guard →
        ∃ column condition, readCondition column condition = .ok guard := by
  rw [readOption] at h
  split at h
  next => cases h
  next before after hdivided =>
    obtain ⟨⟨label, keywords⟩, hlabel, h⟩ := bind_eq_ok_iff.1 h
    simp only at h
    split at h
    next => cases h
    next hsome =>
      rw [Bool.not_eq_true] at hsome
      obtain ⟨destination, hdestination, h⟩ := bind_eq_ok_iff.1 h
      obtain ⟨read, hguard, h⟩ := bind_eq_ok_iff.1 h
      cases h
      refine ⟨before, after, label, hdivided, hlabel, rfl, hsome, ⟨_, _, hdestination⟩, ?_⟩
      rintro guard rfl
      exact exists_condition_of_readGuard hguard

/-- The guard of a choice that was read is known, and its destination has names. -/
theorem isKnown_of_readOption {column : Nat} {arguments : List Char} {choice : Choice}
    (h : readOption column arguments = .ok choice) :
    choice.destination.IsNamed ∧ ∀ guard, choice.guard = some guard → guard.IsKnown := by
  obtain ⟨-, -, -, -, -, -, -, ⟨_, _, hdestination⟩, hguards⟩ := parts_of_readOption h
  refine ⟨isNamed_of_readDestination hdestination, fun guard hguard => ?_⟩
  obtain ⟨_, _, hcondition⟩ := hguards guard hguard
  exact isKnown_of_readCondition hcondition

/-! ## The tree of nodes

  A node is found where the derivation puts it.  Both branches of a conditional are derived from
  items themselves, so the induction on the derivation reaches every depth. -/

/-- Every choice of a row of options is what one of its lines is read as. -/
theorem exists_line_of_mem {grammar : Grammar} {lines : List (List Char)} {choices : List Choice}
    (h : List.Forall₂ (fun line choice => Says grammar line (.option choice)) lines choices) :
    ∀ choice ∈ choices, ∃ line ∈ lines, Says grammar line (.option choice) := by
  induction h with
  | nil => exact nofun
  | cons hline _ ih =>
    refine List.forall_mem_cons.2 ⟨⟨_, List.mem_cons_self, hline⟩, fun choice hmem => ?_⟩
    obtain ⟨line, hmem, hline⟩ := ih choice hmem
    exact ⟨line, List.mem_cons_of_mem _ hmem, hline⟩

/-- Items have nodes that come from their lines. -/
theorem Items.isRead {grammar : Grammar} {lines : List (List Char)} {nodes : List Node}
    (h : Items grammar lines nodes) : ∀ node ∈ nodes, node.IsRead := by
  induction h with
  | nil => exact nofun
  | narrative _ _ ih =>
    refine List.forall_mem_append.2 ⟨fun node hmem => ?_, ih⟩
    obtain ⟨run, -, rfl⟩ := List.mem_map.1 hmem
    exact .text run
  | change hline _ ih =>
    cases hline with
    | change _ hread => exact List.forall_mem_cons.2 ⟨.change hread, ih⟩
  | jump hline _ ih =>
    cases hline with
    | jump _ hread => exact List.forall_mem_cons.2 ⟨.jump hread, ih⟩
  | menu hlines hsome _ _ ih =>
    refine List.forall_mem_cons.2 ⟨.menu hsome fun choice hmem => ?_, ih⟩
    obtain ⟨line, -, hline⟩ := exists_line_of_mem hlines choice hmem
    cases hline with
    | option _ hread => exact ⟨_, _, hread⟩
  | conditional hopener _ _ _ ihbody ihrest =>
    -- Only the then branch is there.
    cases hopener with
    | openIf _ hread =>
      exact List.forall_mem_cons.2 ⟨.conditional hread ihbody nofun, ihrest⟩
  | conditionalElse hopener _ _ _ _ _ ihbody ihothers ihrest =>
    cases hopener with
    | openIf _ hread =>
      exact List.forall_mem_cons.2 ⟨.conditional hread ihbody ihothers, ihrest⟩

/-- The blocks of a file have nodes that come from its lines. -/
theorem Parts.isRead {grammar : Grammar} {number : Nat} {lines : List (List Char)}
    {blocks : List Block} {entries : List String} (h : Parts grammar number lines blocks entries) :
    ∀ block ∈ blocks, ∀ node ∈ block.nodes, node.IsRead := by
  induction h with
  | nil => exact nofun
  | idle _ _ ih => exact ih
  | entry _ _ ih => exact ih
  | block _ hbody _ _ ih => exact List.forall_mem_cons.2 ⟨hbody.isRead, ih⟩

/-- **A story that was read comes from its lines**, whatever grammar it was read by. -/
theorem isRead_of_readStory {grammar : Grammar} {fileId text : String} {story : Story}
    (h : readStory grammar fileId text = .ok story) : story.IsRead := by
  obtain ⟨blocks, entries, hparts, -, -, -, rfl⟩ := isStory_of_readStory h
  exact hparts.isRead

end Markup
end Gamebook
