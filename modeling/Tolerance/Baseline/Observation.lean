import Tolerance.Baseline
import Tolerance.Diagnostic

namespace Tolerance

/-!
# Observed violations

The diagnostics of one linter run are grouped by file and rule, in the order in
which each file and each rule of it was first seen.  The observed baseline
tolerates exactly what was seen.
-/

/-- Diagnostics by file and rule. -/
abbrev Observation := Ledger (List Diagnostic)

namespace Observation

/-- The diagnostics of a rule in a file. -/
def group (observation : Observation) (filename rule : Text) : List Diagnostic :=
  (observation.get? filename rule).getD []

/-- Add a diagnostic at the end of its group. -/
def add (observation : Observation) (diagnostic : Diagnostic) : Observation :=
  observation.set diagnostic.filename diagnostic.rule
    (observation.group diagnostic.filename diagnostic.rule ++ [diagnostic])

/-- Group the diagnostics of one run. -/
def ofDiagnostics (diagnostics : List Diagnostic) : Observation :=
  diagnostics.foldl add Ledger.empty

/-- How many diagnostics each group holds. -/
def counts (observation : Observation) : Baseline :=
  observation.mapValues fun diagnostics => (diagnostics.length : Int)

end Observation

namespace Baseline

/-- The baseline that tolerates exactly the given diagnostics. -/
def observed (diagnostics : List Diagnostic) : Baseline :=
  (Observation.ofDiagnostics diagnostics).counts.sorted

end Baseline

end Tolerance
