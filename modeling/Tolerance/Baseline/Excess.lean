import Tolerance.Baseline.Observation

namespace Tolerance

/-!
# Excess violations

A group of diagnostics is in excess when it holds more of them than the
baseline tolerates.
-/

/-- The violations of one rule in one file that are more than tolerated. -/
structure Excess where
  rule : Text
  filename : Text
  expected : Int
  actual : Int
  diagnostics : List Diagnostic
  deriving Repr, DecidableEq

namespace Excess

/-- By how many violations a group is over its tolerated count. -/
def amount (excess : Excess) : Int :=
  excess.actual - excess.expected

/-- The distinct files of groups in excess, in order of first appearance. -/
def filenames (groups : List Excess) : List Text :=
  groups.foldl
    (fun seen group =>
      if seen.contains group.filename then seen else seen ++ [group.filename])
    []

/-- By how many violations all groups together are over their tolerated counts. -/
def totalAmount (groups : List Excess) : Int :=
  groups.foldr (fun group rest => group.amount + rest) 0

end Excess

namespace Baseline

/-- Compare one group with its tolerated count. -/
def excessOfGroup
    (baseline : Baseline)
    (group : Text × Text × List Diagnostic) :
    Option Excess :=
  let expected := baseline.count group.1 group.2.1
  let actual := (group.2.2.length : Int)
  if expected < actual then
    some {
      rule := group.2.1
      filename := group.1
      expected := expected
      actual := actual
      diagnostics := group.2.2
    }
  else
    none

/-- The groups in excess, file by file in the order in which they were first seen. -/
def excess (baseline : Baseline) (diagnostics : List Diagnostic) : List Excess :=
  (Observation.ofDiagnostics diagnostics).items.filterMap baseline.excessOfGroup

end Baseline

end Tolerance
