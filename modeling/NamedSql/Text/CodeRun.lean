/-!
# Sets of characters by code point

Properties of characters are given by tables of runs of code points.  A run
lists every `step`-th code point from `first` to `last`, so that alphabets which
alternate between two properties stay short.
-/

namespace NamedSql.Text

/-- The code points `first`, `first + step`, … up to `last`. -/
structure CodeRun where
  first : Nat
  last : Nat
  step : Nat

/-- Whether a code point belongs to the run. -/
def CodeRun.contains (run : CodeRun) (code : Nat) : Bool :=
  decide (run.first ≤ code) && decide (code ≤ run.last) && (code - run.first) % run.step == 0

/-- Whether a character belongs to one of the runs. -/
def inRuns (runs : List CodeRun) (c : Char) : Bool :=
  runs.any (·.contains c.toNat)

end NamedSql.Text
