import Tolerance.Baseline.Observation

namespace Tolerance

/-!
# Revising a baseline

Absorbing an observation accepts all that was seen in the files that were seen.
Tightening only ever lowers a count or drops it: what was fixed stays fixed, and
what is new is left to be reported.
-/

namespace Baseline

/-- List every file of the second baseline with its rules there. -/
def overwriteFiles (baseline other : Baseline) : Baseline :=
  other.files.entries.foldl
    (fun revised file => revised.replaceFile file.1 file.2)
    baseline

/--
Replace the rules of every file that was seen by what was seen there.  A file
that was not seen keeps its counts.
-/
def absorb (baseline : Baseline) (diagnostics : List Diagnostic) : Baseline :=
  (baseline.overwriteFiles (observed diagnostics)).pruneEmpty.sorted

/-- The count that tightening leaves for a rule that was seen so many times, if any. -/
def tightenedCount (tolerated : Int) (seen : Nat) : Option Int :=
  if seen = 0 then
    none
  else if (seen : Int) < tolerated then
    some seen
  else
    some tolerated

/-- The counts that tightening leaves for a file. -/
def tightenedRules
    (observation : Observation)
    (filename : Text)
    (rules : OrderedMap Int) :
    OrderedMap Int :=
  rules.filterMapValues fun rule tolerated =>
    tightenedCount tolerated (observation.group filename rule).length

/-- Lower every count to what was seen, and drop what was not seen at all. -/
def tighten (baseline : Baseline) (diagnostics : List Diagnostic) : Baseline :=
  let observation := Observation.ofDiagnostics diagnostics
  let files := baseline.files.filterMapValues fun filename rules =>
    let kept := tightenedRules observation filename rules
    if kept.isEmpty then none else some kept
  Ledger.sorted { files := files }

end Baseline

end Tolerance
