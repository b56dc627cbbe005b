/-!
# Tables of characters

Properties of characters as lists of ranges, of runs with a step, and of runs with a distance to
another character. All lists are in increasing order of codes.
-/

namespace GatedPredicate.Text

/-- Whether a code lies in one of the ranges, whose ends belong to them. -/
def inRanges (ranges : List (Nat × Nat)) (n : Nat) : Bool :=
  ranges.any fun r => r.1 ≤ n && n ≤ r.2

/-- The codes from `first` to `last` in steps. -/
structure Run where
  first : Nat
  last : Nat
  step : Nat

/-- Whether a code belongs to a run. -/
def Run.holds (r : Run) (n : Nat) : Bool :=
  r.first ≤ n && n ≤ r.last && (n - r.first) % r.step == 0

/-- Whether a code belongs to one of the runs. -/
def inRuns (runs : List Run) (n : Nat) : Bool :=
  runs.any fun r => r.holds n

/-- A run whose codes all lie at the same distance from another code. -/
structure Shift where
  run : Run
  distance : Int

/-- The code at the distance that a table gives for `n`; `n` itself where it gives none. -/
def shifted (table : List Shift) (n : Nat) : Nat :=
  match table.find? fun s => s.run.holds n with
  | some s => ((n : Int) + s.distance).toNat
  | none => n

end GatedPredicate.Text
