import Tolerance.Ledger

namespace Tolerance

/-!
# Baselines

A baseline records how many violations of each rule are tolerated in each file.
A pair of file and rule that it does not list tolerates none.
-/

/-- Tolerated counts by file and rule. -/
abbrev Baseline := Ledger Int

namespace Baseline

/-- The tolerated count of a rule in a file. -/
def count (baseline : Baseline) (filename rule : Text) : Int :=
  (baseline.get? filename rule).getD 0

/-- The sum of all tolerated counts. -/
def total (baseline : Baseline) : Int :=
  baseline.items.foldr (fun item rest => item.2.2 + rest) 0

/-- The pairs of file and rule that a baseline lists. -/
def pairs (baseline : Baseline) : List (Text × Text) :=
  baseline.items.map fun item => (item.1, item.2.1)

end Baseline

end Tolerance
