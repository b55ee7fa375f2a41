/-
  Writes to a state that do not depend on each other can be exchanged.

  A state is written to by four calls: a flag is put up or down, a counter is set or adjusted, and
  the score, which is a counter too, is added to.  Which order they come in matters only as far as
  they are calls on the same flag or on the same counter, and not even then for adjustments of a
  counter with no setting of it in between.

  1. **One name** (`get?_flags_writeAll`, `get?_counters_writeAll`).  What is stored under a name in
     the end can be told from the calls on that name alone, in their order.

  2. **One stretch** (`counterAfter_comm`).  Of two adjustments the later adds to what the earlier
     has left, and the first of all adds to zero where nothing was stored.  So they may change
     places, and every number of them between two settings may stand in any order
     (`IsReordered.foldl_eq`).

  3. **The description** (`state_writeAll`).  A dictionary keeps its entries in the order in which
     their names were first written, so the same calls in another order fill it in another order
     (`Ledger`).  A state has them in the order of their names.  This is how a dictionary looks when
     it is listed, whatever the order it was filled in, for its names differ from each other and
     sorting leaves one order only (`Ledger.table`).
-/
import Gamebook.State

namespace Gamebook

/-! ## Calls

  The score is a counter with a name of its own, so a call that adds to it is one on that counter.
-/

/-- A call that writes to a state. -/
inductive Write where
  | setFlag (name : String) (value : Bool)
  | setCounter (name : String) (value : Int)
  | adjustCounter (name : String) (amount : Int)
  | addScore (amount : Int)
deriving DecidableEq

namespace Write

/-- The call is one on this flag. -/
def isOnFlag (name : String) : Write → Bool
  | setFlag target _ => target = name
  | _ => false

/-- The call is one on this counter. -/
def isOnCounter (name : String) : Write → Bool
  | setCounter target _ | adjustCounter target _ => target = name
  | addScore _ => State.scoreCounter = name
  | setFlag .. => false

/-- The call adds to a counter. -/
def isAdjustment : Write → Bool
  | adjustCounter .. | addScore _ => true
  | _ => false

/-- What a call on a flag stores, where `before` was stored. -/
def flagAfter (write : Write) (before : Option Bool) : Option Bool :=
  match write with
  | setFlag _ value => some value
  | _ => before

/-- What a call on a counter stores, where `before` was stored. -/
def counterAfter (write : Write) (before : Option Int) : Option Int :=
  match write with
  | setCounter _ value => some value
  | adjustCounter _ amount | addScore amount => some (before.getD 0 + amount)
  | setFlag .. => before

/-- Two adjustments come to the same in either order. -/
theorem counterAfter_comm {first second : Write} (hfirst : first.isAdjustment = true)
    (hsecond : second.isAdjustment = true) (before : Option Int) :
    second.counterAfter (first.counterAfter before) =
      first.counterAfter (second.counterAfter before) := by
  -- An adjustment adds an amount, and to zero if nothing is stored.
  have hadds : ∀ write : Write, write.isAdjustment = true →
      ∃ amount, ∀ before, write.counterAfter before = some (before.getD 0 + amount) := by
    intro write hwrite
    cases write with
    | adjustCounter name amount => exact ⟨amount, fun _ => rfl⟩
    | addScore amount => exact ⟨amount, fun _ => rfl⟩
    | _ => cases hwrite
  obtain ⟨one, hone⟩ := hadds first hfirst
  obtain ⟨other, hother⟩ := hadds second hsecond
  rw [hone, hother, hone, hother]
  exact congrArg some (Int.add_right_comm _ _ _)

end Write

/-! ## Rearrangements

  Instead of saying which exchanges are allowed and how often they may be made, a rearrangement is
  described by what it keeps: for each name the calls on it. -/

/-- Calls on one counter, of which adjustments may have changed places: the counter is set to the
    same values one after the other, and from each setting to the next, before the first and after
    the last, the adjustments are the same in any order. -/
inductive IsReordered : List Write → List Write → Prop
  | adjustments {first second : List Write} (hperm : first.Perm second)
      (honly : ∀ write ∈ first, write.isAdjustment = true) : IsReordered first second
  | set {first second rest others : List Write} {name : String} {value : Int}
      (hperm : first.Perm second) (honly : ∀ write ∈ first, write.isAdjustment = true)
      (hrest : IsReordered rest others) :
      IsReordered (first ++ .setCounter name value :: rest)
        (second ++ .setCounter name value :: others)

/-- The calls are the same in another order. Those on one flag are in the same order as before, and
    so are those on one counter, but for its adjustments between two settings. -/
structure IsRearranged (first second : List Write) : Prop where
  perm : first.Perm second
  flags : ∀ name, first.filter (·.isOnFlag name) = second.filter (·.isOnFlag name)
  counters : ∀ name,
    IsReordered (first.filter (·.isOnCounter name)) (second.filter (·.isOnCounter name))

/-- Reordered calls leave the same value in their counter. -/
theorem IsReordered.foldl_eq {first second : List Write} (h : IsReordered first second)
    (before : Option Int) :
    first.foldl (fun value write => write.counterAfter value) before =
      second.foldl (fun value write => write.counterAfter value) before := by
  -- Between two settings any order will do, as any two adjustments may change places.
  have hstretch : ∀ {first second : List Write}, first.Perm second →
      (∀ write ∈ first, write.isAdjustment = true) → ∀ before : Option Int,
      first.foldl (fun value write => write.counterAfter value) before =
        second.foldl (fun value write => write.counterAfter value) before := by
    intro first second hperm honly before
    exact hperm.foldl_eq' (fun one hone other hother value =>
      Write.counterAfter_comm (honly one hone) (honly other hother) value) before
  induction h generalizing before with
  | adjustments hperm honly => exact hstretch hperm honly before
  -- After a setting it makes no difference what was there before.
  | set hperm honly _ ih =>
    rw [List.foldl_append, List.foldl_append, hstretch hperm honly before]
    exact ih _

/-! ## The state

  For each name the state is looked at through the calls on that name: `read_writeAll` is one
  induction for flags and counters alike. -/

namespace State

/-- The state after a call. -/
def write (state : State) : Write → State
  | .setFlag name value => state.setFlag name value
  | .setCounter name value => state.setCounter name value
  | .adjustCounter name amount => state.adjustCounter name amount
  | .addScore amount => state.addScore amount

/-- The state after some calls in their order. -/
def writeAll (state : State) (writes : List Write) : State := writes.foldl State.write state

/-- What is stored after a value has been put under a name. -/
theorem get?_insert_of_eq {α : Type} (table : Table α) {target name : String} {value : α}
    {after : Option α} (hvalue : target = name → some value = after) :
    (table.insert target value).get? name =
      if decide (target = name) = true then after else table.get? name := by
  rw [Table.get?_insert]
  by_cases htarget : target = name
  · rw [if_pos htarget.symm, if_pos (decide_eq_true htarget), hvalue htarget]
  · rw [if_neg (Ne.symm htarget), if_neg (by simpa using htarget)]

/-- A call changes a flag only if it is a call on this flag. -/
theorem get?_flags_write (state : State) (write : Write) (name : String) :
    (state.write write).flags.get? name =
      if write.isOnFlag name then write.flagAfter (state.flags.get? name)
      else state.flags.get? name := by
  cases write with
  | setFlag target value => exact get?_insert_of_eq state.flags fun _ => rfl
  | _ => rfl

/-- A call changes a counter only if it is a call on this counter. -/
theorem get?_counters_write (state : State) (write : Write) (name : String) :
    (state.write write).counters.get? name =
      if write.isOnCounter name then write.counterAfter (state.counters.get? name)
      else state.counters.get? name := by
  cases write with
  | setFlag target value => rfl
  | setCounter target value => exact get?_insert_of_eq state.counters fun _ => rfl
  | adjustCounter target amount =>
    exact get?_insert_of_eq state.counters fun htarget => by rw [counter, htarget]; rfl
  | addScore amount =>
    exact get?_insert_of_eq state.counters fun htarget => by rw [counter, htarget]; rfl

/-- What is read of a state, and changed only by the calls of one kind, comes from these calls. -/
theorem read_writeAll {α : Type} (read : State → α) {isOn : Write → Bool} {after : Write → α → α}
    (hwrite : ∀ state write,
      read (state.write write) = if isOn write then after write (read state) else read state)
    (state : State) (writes : List Write) :
    read (state.writeAll writes) =
      (writes.filter isOn).foldl (fun value write => after write value) (read state) := by
  induction writes generalizing state with
  | nil => rfl
  | cons write rest ih =>
    rw [writeAll, List.foldl_cons, ← writeAll, ih, hwrite]
    cases hon : isOn write with
    | true => rw [List.filter_cons_of_pos hon, List.foldl_cons, if_pos rfl]
    | false => rw [List.filter_cons_of_neg (by simp [hon]), if_neg Bool.false_ne_true]

/-- What is stored for a flag comes from the calls on this flag. -/
theorem get?_flags_writeAll (state : State) (writes : List Write) (name : String) :
    (state.writeAll writes).flags.get? name =
      (writes.filter (·.isOnFlag name)).foldl (fun value write => write.flagAfter value)
        (state.flags.get? name) :=
  read_writeAll (·.flags.get? name) (get?_flags_write · · name) state writes

/-- What is stored for a counter comes from the calls on this counter. -/
theorem get?_counters_writeAll (state : State) (writes : List Write) (name : String) :
    (state.writeAll writes).counters.get? name =
      (writes.filter (·.isOnCounter name)).foldl (fun value write => write.counterAfter value)
        (state.counters.get? name) :=
  read_writeAll (·.counters.get? name) (get?_counters_write · · name) state writes

/-- A call touches neither the name of the state nor the place. -/
theorem kept_writeAll (state : State) (writes : List Write) :
    (state.writeAll writes).name = state.name ∧
      (state.writeAll writes).progress = state.progress := by
  induction writes generalizing state with
  | nil => exact ⟨rfl, rfl⟩
  | cons write rest ih =>
    obtain ⟨hname, hprogress⟩ := ih (state.write write)
    have hwrite : (state.write write).name = state.name ∧
        (state.write write).progress = state.progress := by
      cases write <;> exact ⟨rfl, rfl⟩
    exact ⟨hname.trans hwrite.1, hprogress.trans hwrite.2⟩

/-- Two states with the same look-ups, the same name and the same place are the same. -/
theorem ext_of_get? {first second : State}
    (hflags : ∀ name, first.flags.get? name = second.flags.get? name)
    (hcounters : ∀ name, first.counters.get? name = second.counters.get? name)
    (hname : first.name = second.name) (hprogress : first.progress = second.progress) :
    first = second := by
  obtain ⟨name, flags, counters, progress⟩ := first
  obtain ⟨otherName, otherFlags, otherCounters, otherProgress⟩ := second
  obtain rfl : flags = otherFlags := Table.ext_get? hflags
  obtain rfl : counters = otherCounters := Table.ext_get? hcounters
  obtain rfl : name = otherName := hname
  obtain rfl : progress = otherProgress := hprogress
  rfl

/-- Rearranged calls lead to the same state. -/
theorem writeAll_eq_of_isRearranged {first second : List Write} (h : IsRearranged first second)
    (state : State) : state.writeAll first = state.writeAll second := by
  obtain ⟨hname, hprogress⟩ := kept_writeAll state first
  obtain ⟨hotherName, hotherProgress⟩ := kept_writeAll state second
  apply ext_of_get?
  · intro name
    rw [get?_flags_writeAll, get?_flags_writeAll, h.flags]
  · intro name
    rw [get?_counters_writeAll, get?_counters_writeAll, (h.counters name).foldl_eq]
  · exact hname.trans hotherName.symm
  · exact hprogress.trans hotherProgress.symm

end State

/-! ## Dictionaries

  Tables are kept in the order of their names, so that equal look-ups make equal tables.  A
  dictionary is not; it is compared with a table by sorting it. -/

/-- The value of an entry, where names differ, is what is looked up under its name. -/
theorem Table.lookup_eq_some_iff_mem {α : Type} {entries : List (String × α)}
    (hdistinct : (entries.map Prod.fst).Nodup) {name : String} {value : α} :
    entries.lookup name = some value ↔ (name, value) ∈ entries := by
  induction entries with
  | nil => simp
  | cons entry rest ih =>
    obtain ⟨hfirst, hrest⟩ := List.nodup_cons.1 hdistinct
    rw [Table.lookup_entry, List.mem_cons]
    split
    next hname =>
      have hother : (name, value) ∉ rest := fun hmem =>
        hfirst (hname ▸ List.mem_map_of_mem hmem)
      rw [Option.some.injEq, or_iff_left hother, Prod.ext_iff]
      exact ⟨fun h => ⟨hname, h.symm⟩, fun h => h.2.symm⟩
    next hname =>
      rw [ih hrest, or_iff_right]
      exact fun h => hname (congrArg Prod.fst h)

/-- A dictionary: its entries are in the order in which their names were first written. -/
structure Ledger (α : Type) where
  entries : List (String × α)
  distinct : (entries.map Prod.fst).Nodup

namespace Ledger

variable {α : Type}

/-- Writes a value in the place of its name, or at the end if the name has none. -/
def put (name : String) (value : α) : List (String × α) → List (String × α)
  | [] => [(name, value)]
  | entry :: rest =>
    if name = entry.1 then (name, value) :: rest else entry :: put name value rest

/-- A name keeps its place, and a new one comes last. -/
theorem names_put (name : String) (value : α) (entries : List (String × α)) :
    (put name value entries).map Prod.fst =
      if name ∈ entries.map Prod.fst then entries.map Prod.fst
      else entries.map Prod.fst ++ [name] := by
  induction entries with
  | nil => rfl
  | cons entry rest ih =>
    rw [put]
    by_cases hname : name = entry.1
    · rw [if_pos hname, if_pos (by simp [hname]), List.map_cons, List.map_cons, hname]
    · rw [if_neg hname, List.map_cons, ih]
      simp only [List.map_cons, List.mem_cons, hname, false_or]
      split <;> rfl

/-- Writing keeps names different. -/
theorem distinct_put (name : String) (value : α) {entries : List (String × α)}
    (h : (entries.map Prod.fst).Nodup) : ((put name value entries).map Prod.fst).Nodup := by
  rw [names_put]
  split
  next => exact h
  next hnew =>
    refine List.nodup_append.2 ⟨h, by simp, fun old hold last hlast hsame => ?_⟩
    rw [List.mem_singleton.1 hlast] at hsame
    exact hnew (hsame ▸ hold)

/-- What is written is looked up under its name, and nothing else has changed. -/
theorem lookup_put (name : String) (value : α) (entries : List (String × α)) (other : String) :
    (put name value entries).lookup other =
      if other = name then some value else entries.lookup other := by
  induction entries with
  | nil => rw [put, Table.lookup_entry]
  | cons entry rest ih =>
    rw [put]
    split
    next hname => rw [Table.lookup_entry, Table.lookup_entry, ← hname]; split <;> rfl
    next hname =>
      rw [Table.lookup_entry, Table.lookup_entry, ih]
      by_cases hother : other = name
      · rw [if_pos hother, if_pos hother, if_neg fun h => hname (hother ▸ h)]
      · rw [if_neg hother, if_neg hother]

/-- Stores a value under a name. -/
def insert (ledger : Ledger α) (name : String) (value : α) : Ledger α :=
  ⟨put name value ledger.entries, distinct_put name value ledger.distinct⟩

/-- The value stored under a name. -/
def get? (ledger : Ledger α) (name : String) : Option α := ledger.entries.lookup name

/-- The entries sorted by their names. -/
def sorted (ledger : Ledger α) : List (String × α) :=
  ledger.entries.mergeSort fun entry other => decide (entry.1 ≤ other.1)

/-- Sorting leaves the names in their order, and as they differ no two are the same. -/
theorem pairwise_sorted (ledger : Ledger α) :
    ledger.sorted.Pairwise fun entry other => entry.1 < other.1 := by
  have hle : ledger.sorted.Pairwise fun entry other => entry.1 ≤ other.1 := by
    have h : ledger.sorted.Pairwise fun entry other => decide (entry.1 ≤ other.1) = true := by
      apply List.pairwise_mergeSort
      · intro first second third hfirst hsecond
        exact decide_eq_true
          (String.le_trans (of_decide_eq_true hfirst) (of_decide_eq_true hsecond))
      · intro first second
        simpa using String.le_total first.1 second.1
    exact h.imp of_decide_eq_true
  have hne : ledger.sorted.Pairwise fun entry other => entry.1 ≠ other.1 := by
    have hperm := (List.mergeSort_perm ledger.entries
      fun entry other => decide (entry.1 ≤ other.1)).map Prod.fst
    exact List.pairwise_map.1 (hperm.nodup_iff.2 ledger.distinct)
  refine (hle.and hne).imp fun ⟨hle, hne⟩ => ?_
  exact String.not_le.1 fun h => hne (String.le_antisymm hle h)

/-- The dictionary in the order of its names. -/
def table (ledger : Ledger α) : Table α := ⟨ledger.sorted, ledger.pairwise_sorted⟩

/-- Sorting changes no look-up. -/
theorem get?_table (ledger : Ledger α) (name : String) :
    ledger.table.get? name = ledger.get? name := by
  have hperm : ledger.sorted.Perm ledger.entries := List.mergeSort_perm _ _
  have hdistinct : (ledger.sorted.map Prod.fst).Nodup :=
    (hperm.map Prod.fst).nodup_iff.2 ledger.distinct
  have hsame : ∀ value, ledger.sorted.lookup name = some value ↔
      ledger.entries.lookup name = some value := by
    intro value
    rw [Table.lookup_eq_some_iff_mem hdistinct, Table.lookup_eq_some_iff_mem ledger.distinct]
    exact hperm.mem_iff
  exact Option.ext hsame

/-- Storing and sorting is sorting and storing. -/
theorem table_insert (ledger : Ledger α) (name : String) (value : α) :
    (ledger.insert name value).table = ledger.table.insert name value := by
  refine Table.ext_get? fun other => ?_
  rw [get?_table, Table.get?_insert, get?_table]
  exact lookup_put name value ledger.entries other

end Ledger

/-! ## States in dictionaries

  Each call on a state in dictionaries does, once these are sorted, what it does to the state. -/

/-- A state whose flags and counters are kept in dictionaries. -/
structure Notes where
  name : String := "Interactive Fiction"
  flags : Ledger Bool
  counters : Ledger Int
  progress : Place := {}

namespace Notes

/-- Whether a flag is up. -/
def flag (notes : Notes) (name : String) : Bool := (notes.flags.get? name).getD false

/-- The value of a counter. -/
def counter (notes : Notes) (name : String) : Int := (notes.counters.get? name).getD 0

/-- Adds to a counter. -/
def adjustCounter (notes : Notes) (name : String) (amount : Int) : Notes :=
  { notes with counters := notes.counters.insert name (notes.counter name + amount) }

/-- The notes after a call. -/
def write (notes : Notes) : Write → Notes
  | .setFlag name value => { notes with flags := notes.flags.insert name value }
  | .setCounter name value => { notes with counters := notes.counters.insert name value }
  | .adjustCounter name amount => notes.adjustCounter name amount
  | .addScore amount => notes.adjustCounter State.scoreCounter amount

/-- The notes after some calls in their order. -/
def writeAll (notes : Notes) (writes : List Write) : Notes := writes.foldl Notes.write notes

/-- The state that is noted, its flags and counters sorted. -/
def state (notes : Notes) : State where
  name := notes.name
  flags := notes.flags.table
  counters := notes.counters.table
  progress := notes.progress

/-- The summary, with the flags and the counters sorted. -/
def describe (notes : Notes) : String := notes.state.describe

theorem flag_state (notes : Notes) (name : String) : notes.state.flag name = notes.flag name :=
  congrArg (·.getD false) (notes.flags.get?_table name)

theorem counter_state (notes : Notes) (name : String) :
    notes.state.counter name = notes.counter name :=
  congrArg (·.getD 0) (notes.counters.get?_table name)

/-- A call does to the notes what it does to the state that is noted. -/
theorem state_write (notes : Notes) (write : Write) :
    (notes.write write).state = notes.state.write write := by
  have hcounters : ∀ name value,
      state { notes with counters := notes.counters.insert name value } =
        notes.state.setCounter name value := by
    intro name value
    rw [State.setCounter, state, Ledger.table_insert]
    rfl
  cases write with
  | setFlag name value =>
    rw [Notes.write, State.write, State.setFlag, state, Ledger.table_insert]
    rfl
  | setCounter name value => exact hcounters name value
  | adjustCounter name amount =>
    rw [Notes.write, State.write, State.adjustCounter, counter_state]
    exact hcounters name _
  | addScore amount =>
    rw [Notes.write, State.write, State.addScore, State.adjustCounter, counter_state]
    exact hcounters State.scoreCounter _

/-- So do calls one after the other. -/
theorem state_writeAll (notes : Notes) (writes : List Write) :
    (notes.writeAll writes).state = notes.state.writeAll writes := by
  induction writes generalizing notes with
  | nil => rfl
  | cons write rest ih =>
    rw [writeAll, List.foldl_cons, ← writeAll, ih, state_write]
    rfl

end Notes

/-- **Writes that do not depend on each other can be exchanged.** After calls in one order and after
    the same calls rearranged, the states agree on every flag and on every counter, and they are
    described alike. So do states that are kept in dictionaries, which may then have been filled in
    different orders. -/
theorem alike_of_isRearranged {first second : List Write} (h : IsRearranged first second) :
    (∀ state : State,
      (∀ name, (state.writeAll first).flag name = (state.writeAll second).flag name) ∧
      (∀ name, (state.writeAll first).counter name = (state.writeAll second).counter name) ∧
      (state.writeAll first).describe = (state.writeAll second).describe) ∧
    ∀ notes : Notes,
      (∀ name, (notes.writeAll first).flag name = (notes.writeAll second).flag name) ∧
      (∀ name, (notes.writeAll first).counter name = (notes.writeAll second).counter name) ∧
      (notes.writeAll first).describe = (notes.writeAll second).describe := by
  constructor
  · intro state
    rw [State.writeAll_eq_of_isRearranged h state]
    exact ⟨fun _ => rfl, fun _ => rfl, rfl⟩
  · intro notes
    have hstate : (notes.writeAll first).state = (notes.writeAll second).state := by
      rw [Notes.state_writeAll, Notes.state_writeAll, State.writeAll_eq_of_isRearranged h]
    refine ⟨fun name => ?_, fun name => ?_, congrArg State.describe hstate⟩
    · rw [← Notes.flag_state, ← Notes.flag_state, hstate]
    · rw [← Notes.counter_state, ← Notes.counter_state, hstate]

/-- Calls at a fire. -/
def campfireWrites : List Write :=
  [.adjustCounter "hp" 2, .setFlag "lit" true, .addScore 5, .adjustCounter "hp" (-3),
    .setFlag "wet" false, .setCounter "hp" 7, .addScore 1]

/-- The same calls in another order. -/
def rearrangedWrites : List Write :=
  [.setFlag "wet" false, .addScore 1, .adjustCounter "hp" (-3), .setFlag "lit" true,
    .adjustCounter "hp" 2, .addScore 5, .setCounter "hp" 7]

theorem isRearranged_campfire : IsRearranged campfireWrites rearrangedWrites where
  perm := by decide
  flags name := by
    by_cases hlit : "lit" = name
    · subst hlit; decide
    · by_cases hwet : "wet" = name
      · subst hwet; decide
      · simp [campfireWrites, rearrangedWrites, Write.isOnFlag, hlit, hwet]
  counters name := by
    by_cases hp : "hp" = name
    · subst hp
      exact @IsReordered.set [.adjustCounter "hp" 2, .adjustCounter "hp" (-3)]
        [.adjustCounter "hp" (-3), .adjustCounter "hp" 2] [] [] "hp" 7 (by decide) (by decide)
        (.adjustments .nil nofun)
    · by_cases hscore : State.scoreCounter = name
      · subst hscore
        exact @IsReordered.adjustments [.addScore 5, .addScore 1] [.addScore 1, .addScore 5]
          (by decide) (by decide)
      · have hnone : ∀ writes ∈ [campfireWrites, rearrangedWrites],
            writes.filter (·.isOnCounter name) = [] := by
          simp [campfireWrites, rearrangedWrites, Write.isOnCounter, hp, hscore]
        rw [hnone _ (by simp), hnone _ (by simp)]
        exact .adjustments .nil nofun

/-- Notes without flags and counters. -/
def emptyNotes : Notes where
  flags := ⟨[], .nil⟩
  counters := ⟨[], .nil⟩

/-- The flags are noted in different orders and described in one. -/
theorem alike_of_isRearranged_campfire :
    IsRearranged campfireWrites rearrangedWrites ∧
      (emptyNotes.writeAll campfireWrites).flags.entries = [("lit", true), ("wet", false)] ∧
      (emptyNotes.writeAll rearrangedWrites).flags.entries = [("wet", false), ("lit", true)] ∧
      (emptyNotes.writeAll campfireWrites).counter "score" = 6 ∧
      (emptyNotes.writeAll campfireWrites).counter "hp" =
        (emptyNotes.writeAll rearrangedWrites).counter "hp" ∧
      (emptyNotes.writeAll campfireWrites).describe =
        (emptyNotes.writeAll rearrangedWrites).describe := by
  obtain ⟨-, hcounters, hdescribe⟩ := (alike_of_isRearranged isRearranged_campfire).2 emptyNotes
  exact ⟨isRearranged_campfire, by decide, by decide, by decide, hcounters "hp", hdescribe⟩

end Gamebook
