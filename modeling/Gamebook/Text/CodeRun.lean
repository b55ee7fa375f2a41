/-
  Sets of characters, written as runs of consecutive code points.

  A property of characters that a standard lists is data. It is kept as a list of runs, and the one
  way to ask about it is `inRuns`: a character has the property when some run covers its code point.
-/

namespace Gamebook.Text

/-- A run of consecutive code points: its first and its last member, both included. -/
abbrev CodeRun := Nat × Nat

/-- The code point lies within the run. -/
def CodeRun.covers (run : CodeRun) (code : Nat) : Bool :=
  decide (run.1 ≤ code) && decide (code ≤ run.2)

/-- The character belongs to the set that the runs make up. -/
def inRuns (runs : List CodeRun) (c : Char) : Bool :=
  runs.any fun run => run.covers c.toNat

/-- Membership is membership in one of the runs. -/
theorem inRuns_iff {runs : List CodeRun} {c : Char} :
    inRuns runs c = true ↔ ∃ run ∈ runs, run.1 ≤ c.toNat ∧ c.toNat ≤ run.2 := by
  simp [inRuns, CodeRun.covers]

end Gamebook.Text
