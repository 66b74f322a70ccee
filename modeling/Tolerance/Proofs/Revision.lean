import Tolerance.Baseline.Revision
import Tolerance.Proofs.Observation

namespace Tolerance.Baseline

/-!
# What a revision does to each count

Absorbing an observation replaces the counts of the files that were seen and
keeps all others.  Tightening leaves of each count the smaller one of it and
what was seen.  Both give a canonical baseline.
-/

open Diagnostic

/-- Overwriting files one after the other leaves each with what was written last. -/
private theorem rules_foldl_replaceFile
    {files : List (Text × OrderedMap Int)}
    (distinct : (files.map Prod.fst).Nodup)
    (baseline : Baseline)
    (filename : Text) :
    (files.foldl
        (fun revised file => Ledger.replaceFile revised file.1 file.2)
        baseline).rules filename =
      ((files.find? fun file => file.1 = filename).map Prod.snd).getD
        (baseline.rules filename) := by
  induction files generalizing baseline with
  | nil =>
      rfl
  | cons file later inductionHypothesis =>
      have split := List.nodup_cons.mp distinct
      rw [List.foldl_cons, inductionHypothesis split.2,
        Ledger.rules_replaceFile]
      by_cases same : file.1 = filename
      · subst filename
        have notLater :
            later.find? (fun other => other.1 = file.1) = none := by
          simp only [List.find?_eq_none, decide_eq_true_eq]
          intro other member sameName
          exact split.1 (sameName ▸ List.mem_map_of_mem (f := Prod.fst) member)
        simp [notLater]
      · simp [same]

/-- Overwriting gives each listed file its rules in the second baseline. -/
theorem rules_overwriteFiles
    (baseline other : Baseline)
    (filename : Text) :
    (baseline.overwriteFiles other).rules filename =
      (other.files.get? filename).getD (baseline.rules filename) :=
  rules_foldl_replaceFile other.files.keysDistinct baseline filename

/-- A file that was seen has the counts of what was seen. -/
theorem get?_absorb_of_mem
    {diagnostics : List Diagnostic}
    {filename : Text}
    (seen : filename ∈ diagnostics.map Diagnostic.filename)
    (baseline : Baseline)
    (rule : Text) :
    (baseline.absorb diagnostics).get? filename rule =
      (observed diagnostics).get? filename rule := by
  obtain ⟨rules, listed⟩ :=
    Option.isSome_iff_exists.mp
      (Ledger.mem_filenames_iff.mp (mem_filenames_observed.mpr seen))
  rw [absorb, Ledger.get?_sorted, Ledger.get?_pruneEmpty, Ledger.get?,
    rules_overwriteFiles]
  simp [listed, Ledger.get?, Ledger.rules]

/-- A file that was not seen keeps its counts. -/
theorem get?_absorb_of_not_mem
    {diagnostics : List Diagnostic}
    {filename : Text}
    (notSeen : filename ∉ diagnostics.map Diagnostic.filename)
    (baseline : Baseline)
    (rule : Text) :
    (baseline.absorb diagnostics).get? filename rule =
      baseline.get? filename rule := by
  have notListed : (observed diagnostics).files.get? filename = none := by
    rw [OrderedMap.get?_eq_none_iff]
    exact fun listed => notSeen (mem_filenames_observed.mp listed)
  rw [absorb, Ledger.get?_sorted, Ledger.get?_pruneEmpty, Ledger.get?,
    rules_overwriteFiles]
  simp [notListed, Ledger.get?]

/-- A file has the counts of what was seen there, or else its own. -/
theorem get?_absorb
    (baseline : Baseline)
    (diagnostics : List Diagnostic)
    (filename rule : Text) :
    (baseline.absorb diagnostics).get? filename rule =
      if filename ∈ diagnostics.map Diagnostic.filename then
        (observed diagnostics).get? filename rule
      else
        baseline.get? filename rule := by
  split
  · next seen =>
      exact get?_absorb_of_mem seen baseline rule
  · next notSeen =>
      exact get?_absorb_of_not_mem notSeen baseline rule

theorem canonical_absorb
    (baseline : Baseline)
    (diagnostics : List Diagnostic) :
    (baseline.absorb diagnostics).Canonical :=
  (Ledger.pruned_pruneEmpty _).canonical_sorted

/-- What tightening leaves before it is put in order. -/
private def unsortedTightened
    (baseline : Baseline)
    (diagnostics : List Diagnostic) :
    Baseline where
  files := baseline.files.filterMapValues fun filename rules =>
    let kept :=
      tightenedRules (Observation.ofDiagnostics diagnostics) filename rules
    if kept.isEmpty then none else some kept

/-- Tightening keeps of a file's rules those that were seen. -/
private theorem rules_unsortedTightened
    (baseline : Baseline)
    (diagnostics : List Diagnostic)
    (filename : Text) :
    (unsortedTightened baseline diagnostics).rules filename =
      tightenedRules (Observation.ofDiagnostics diagnostics) filename
        (baseline.rules filename) := by
  unfold Ledger.rules unsortedTightened
  rw [OrderedMap.get?_filterMapValues]
  cases baseline.files.get? filename with
  | none =>
      rfl
  | some rules =>
      by_cases nothing :
          (tightenedRules (Observation.ofDiagnostics diagnostics)
            filename rules).isEmpty = true
      · have isEmptyMap := OrderedMap.eq_empty_of_isEmpty nothing
        simp only [Option.bind_some, Option.getD_some, isEmptyMap]
        rfl
      · simp [nothing]

/-- Tightening changes each count by itself. -/
theorem get?_tighten
    (baseline : Baseline)
    (diagnostics : List Diagnostic)
    (filename rule : Text) :
    (baseline.tighten diagnostics).get? filename rule =
      (baseline.get? filename rule).bind fun tolerated =>
        tightenedCount tolerated (occurrences diagnostics filename rule) := by
  have sortedForm :
      baseline.tighten diagnostics =
        (unsortedTightened baseline diagnostics).sorted :=
    rfl
  rw [sortedForm, Ledger.get?_sorted, Ledger.get?, rules_unsortedTightened,
    tightenedRules, OrderedMap.get?_filterMapValues, Ledger.get?,
    Observation.group_ofDiagnostics]
  rfl

theorem canonical_tighten
    (baseline : Baseline)
    (diagnostics : List Diagnostic) :
    (baseline.tighten diagnostics).Canonical := by
  have pruned : (unsortedTightened baseline diagnostics).Pruned := by
    intro filename rules listed
    rw [unsortedTightened, OrderedMap.get?_filterMapValues] at listed
    obtain ⟨_, _, kept⟩ := Option.bind_eq_some_iff.mp listed
    dsimp only at kept
    split at kept
    · cases kept
    · next something =>
        cases kept
        simpa using something
  exact pruned.canonical_sorted

/--
Of a count above zero or below it tightening leaves the smaller one of it and
what was seen.
-/
theorem tightenedCount_eq
    (tolerated : Int)
    (seen : Nat) :
    tightenedCount tolerated seen =
      if seen = 0 then none else some (min tolerated seen) := by
  unfold tightenedCount
  split
  · rfl
  · split
    · next fewer =>
        rw [Int.min_eq_right (Int.le_of_lt fewer)]
    · next notFewer =>
        rw [Int.min_eq_left (Int.not_lt.mp notFewer)]

/-- Nothing of a pair that was not seen is left by tightening. -/
theorem get?_tighten_of_not_seen
    {diagnostics : List Diagnostic}
    {filename rule : Text}
    (notSeen : occurrences diagnostics filename rule = 0)
    (baseline : Baseline) :
    (baseline.tighten diagnostics).get? filename rule = none := by
  rw [get?_tighten, notSeen]
  cases baseline.get? filename rule <;> rfl

/-- Of a pair that was seen tightening leaves the smaller one of its count and what was seen. -/
theorem get?_tighten_of_seen
    {diagnostics : List Diagnostic}
    {filename rule : Text}
    (seen : occurrences diagnostics filename rule ≠ 0)
    (baseline : Baseline) :
    (baseline.tighten diagnostics).get? filename rule =
      (baseline.get? filename rule).map
        (min · (occurrences diagnostics filename rule : Int)) := by
  simp only [get?_tighten, tightenedCount_eq, if_neg seen]
  exact Option.map_eq_bind.symm

end Tolerance.Baseline
