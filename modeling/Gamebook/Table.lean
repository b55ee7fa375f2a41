/-
  Tables from names to values.

  A table keeps its entries in ascending order of their names, each name once, names being compared
  code point by code point. So the order in which entries were written leaves no trace: two tables
  with the same look-ups are equal (`Table.ext_get?`), and listing a table needs no sorting.
-/

namespace Gamebook

/-- A finite map from names to values, its entries in ascending order of their names. -/
structure Table (α : Type) where
  entries : List (String × α)
  sorted : entries.Pairwise fun a b => a.1 < b.1

namespace Table

variable {α : Type}

/-! ## Operations -/

/-- The table without entries. -/
def empty : Table α := ⟨[], .nil⟩

instance : EmptyCollection (Table α) := ⟨empty⟩
instance : Inhabited (Table α) := ⟨empty⟩

/-- The value stored under a name. -/
def get? (table : Table α) (name : String) : Option α := table.entries.lookup name

/-- Something is stored under the name. -/
def contains (table : Table α) (name : String) : Bool := (table.get? name).isSome

/-- The names in ascending order. -/
def names (table : Table α) : List String := table.entries.map (·.1)

/-- Puts a value in its place among sorted entries; a value already there under the same name gives
    way. -/
def place (name : String) (value : α) : List (String × α) → List (String × α)
  | [] => [(name, value)]
  | entry :: rest =>
    if name < entry.1 then (name, value) :: entry :: rest
    else if name = entry.1 then (name, value) :: rest
    else entry :: place name value rest

theorem mem_place {name : String} {value : α} {entries : List (String × α)} {e : String × α}
    (h : e ∈ place name value entries) : e = (name, value) ∨ e ∈ entries := by
  induction entries with
  | nil => simpa [place] using h
  | cons entry rest ih =>
    simp only [place] at h
    split at h
    · simpa using h
    · split at h
      · rcases List.mem_cons.1 h with h | h
        · exact .inl h
        · exact .inr (List.mem_cons_of_mem _ h)
      · rcases List.mem_cons.1 h with h | h
        · exact .inr (h ▸ List.mem_cons_self)
        · exact (ih h).imp_right (List.mem_cons_of_mem _)

theorem place_sorted {name : String} {value : α} {entries : List (String × α)}
    (h : entries.Pairwise fun a b => a.1 < b.1) :
    (place name value entries).Pairwise fun a b => a.1 < b.1 := by
  induction entries with
  | nil => simp [place]
  | cons entry rest ih =>
    obtain ⟨hfirst, hrest⟩ := List.pairwise_cons.1 h
    simp only [place]
    split
    next hlt =>
      refine List.pairwise_cons.2 ⟨fun e he => ?_, h⟩
      rcases List.mem_cons.1 he with rfl | he
      · exact hlt
      · exact String.lt_trans hlt (hfirst e he)
    next hlt =>
      split
      next heq => exact List.pairwise_cons.2 ⟨fun e he => heq ▸ hfirst e he, hrest⟩
      next hne =>
        refine List.pairwise_cons.2 ⟨fun e he => ?_, ih hrest⟩
        rcases mem_place he with rfl | he
        · exact Std.lt_of_le_of_ne (Std.not_lt.1 hlt) (Ne.symm hne)
        · exact hfirst e he

/-- Stores a value under a name; what was stored there before is forgotten. -/
def insert (table : Table α) (name : String) (value : α) : Table α :=
  ⟨place name value table.entries, place_sorted table.sorted⟩

/-- The table of some entries; of two under one name the later counts. -/
def ofList (entries : List (String × α)) : Table α :=
  entries.foldl (fun table entry => table.insert entry.1 entry.2) empty

/-! ## Look-ups -/

/-- A look-up in a list of entries tries the first entry, then the others. -/
theorem lookup_entry (entry : String × α) (rest : List (String × α)) (name : String) :
    (entry :: rest).lookup name = if name = entry.1 then some entry.2 else rest.lookup name := by
  obtain ⟨key, value⟩ := entry
  rw [List.lookup_cons]
  by_cases h : name = key
  · simp [h]
  · simp [h, beq_eq_false_iff_ne.2 h]

@[simp] theorem get?_empty (name : String) : (empty : Table α).get? name = none := rfl

theorem lookup_place (name : String) (value : α) (entries : List (String × α)) (other : String) :
    (place name value entries).lookup other =
      if other = name then some value else entries.lookup other := by
  induction entries with
  | nil => rw [place, lookup_entry]
  | cons entry rest ih =>
    rw [place]
    split
    · rw [lookup_entry]
    · split
      next heq => rw [lookup_entry, lookup_entry, ← heq]; split <;> rfl
      next hne =>
        rw [lookup_entry, lookup_entry, ih]
        by_cases hn : other = name
        · rw [if_pos hn, if_pos hn, if_neg fun he => hne (hn ▸ he)]
        · rw [if_neg hn, if_neg hn]

/-- Reading after a write: the name written to has the value written, every other name what it
    had. -/
@[simp] theorem get?_insert (table : Table α) (name : String) (value : α) (other : String) :
    (table.insert name value).get? other = if other = name then some value else table.get? other :=
  lookup_place name value table.entries other

theorem lookup_eq_none_of_lt {name : String} {entries : List (String × α)}
    (h : ∀ e ∈ entries, name < e.1) : entries.lookup name = none := by
  induction entries with
  | nil => rfl
  | cons entry rest ih =>
    have hne : name ≠ entry.1 := fun heq =>
      String.lt_irrefl name (by simpa [← heq] using h entry List.mem_cons_self)
    rw [lookup_entry, if_neg hne]
    exact ih fun e he => h e (List.mem_cons_of_mem _ he)

/-- A name below the first of sorted entries is none of them. -/
theorem lookup_eq_none_of_lt_head {name : String} {entry : String × α}
    {rest : List (String × α)} (hlt : name < entry.1)
    (h : (entry :: rest).Pairwise fun a b => a.1 < b.1) : (entry :: rest).lookup name = none :=
  lookup_eq_none_of_lt fun e he => by
    rcases List.mem_cons.1 he with rfl | he
    · exact hlt
    · exact String.lt_trans hlt ((List.pairwise_cons.1 h).1 e he)

theorem entries_ext {xs ys : List (String × α)} (hx : xs.Pairwise fun a b => a.1 < b.1)
    (hy : ys.Pairwise fun a b => a.1 < b.1) (h : ∀ name, xs.lookup name = ys.lookup name) :
    xs = ys := by
  induction xs generalizing ys with
  | nil =>
    cases ys with
    | nil => rfl
    | cons y ys => simpa [lookup_entry] using h y.1
  | cons x xs ih =>
    cases ys with
    | nil => simpa [lookup_entry] using h x.1
    | cons y ys =>
      have hname : x.1 = y.1 := by
        rcases Decidable.em (x.1 = y.1) with heq | hne
        · exact heq
        · rcases Decidable.em (x.1 < y.1) with hlt | hlt
          · have := h x.1
            simp [lookup_eq_none_of_lt_head hlt hy, lookup_entry] at this
          · have := h y.1
            have hgt := Std.lt_of_le_of_ne (Std.not_lt.1 hlt) (Ne.symm hne)
            simp [lookup_eq_none_of_lt_head hgt hx, lookup_entry] at this
      have hvalue : x.2 = y.2 := by simpa [lookup_entry, hname] using h x.1
      have hentry : x = y := Prod.ext hname hvalue
      subst hentry
      obtain ⟨hxs, hx⟩ := List.pairwise_cons.1 hx
      obtain ⟨hys, hy⟩ := List.pairwise_cons.1 hy
      refine congrArg (x :: ·) (ih hx hy fun name => ?_)
      by_cases hn : name = x.1
      · rw [hn, lookup_eq_none_of_lt hxs, lookup_eq_none_of_lt hys]
      · simpa [lookup_entry, hn] using h name

/-- A table is determined by its look-ups. -/
theorem ext_get? {s t : Table α} (h : ∀ name, s.get? name = t.get? name) : s = t := by
  obtain ⟨xs, hx⟩ := s
  obtain ⟨ys, hy⟩ := t
  have : xs = ys := entries_ext hx hy h
  subst this
  rfl

end Table
end Gamebook
