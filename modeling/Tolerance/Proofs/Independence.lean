import Mathlib.Data.Set.Insert
import Tolerance.Proofs.Change
import Tolerance.Proofs.Occurrences
import Tolerance.Proofs.Restriction

namespace Tolerance.Baseline

/-!
# Files are independent of each other

Whatever is computed about a file comes from the counts and the diagnostics of
this file alone.  To look at some files only and to compute then gives the same
as to compute first and to look at these files then, in the same order.
-/

open Diagnostic

variable (files : Set Text) [DecidablePred (· ∈ files)]

theorem observed_restrict (diagnostics : List Diagnostic) :
    observed (restrict files diagnostics) =
      (observed diagnostics).restrict files := by
  -- A canonical baseline is settled by its counts, its order included.
  apply Ledger.eq_of_canonical (canonical_observed _)
    ((canonical_observed diagnostics).restrict files)
  intro filename rule
  rw [get?_observed, occurrences_restrict, Ledger.get?_restrict, get?_observed]
  by_cases kept : filename ∈ files <;> simp [kept]

theorem absorb_restrict
    (baseline : Baseline)
    (diagnostics : List Diagnostic) :
    absorb (baseline.restrict files) (restrict files diagnostics) =
      (baseline.absorb diagnostics).restrict files := by
  apply Ledger.eq_of_canonical (canonical_absorb _ _)
    ((canonical_absorb baseline diagnostics).restrict files)
  intro filename rule
  simp only [get?_absorb, mem_map_filename_restrict, observed_restrict,
    Ledger.get?_restrict]
  by_cases kept : filename ∈ files <;> simp [kept]

theorem tighten_restrict
    (baseline : Baseline)
    (diagnostics : List Diagnostic) :
    tighten (baseline.restrict files) (restrict files diagnostics) =
      (baseline.tighten diagnostics).restrict files := by
  apply Ledger.eq_of_canonical (canonical_tighten _ _)
    ((canonical_tighten baseline diagnostics).restrict files)
  intro filename rule
  simp only [get?_tighten, Ledger.get?_restrict, occurrences_restrict]
  by_cases kept : filename ∈ files <;> simp [kept]

/-- A group is compared with the same count in a part of the baseline that has its file. -/
private theorem excessOfGroup_restrict
    (baseline : Baseline)
    (group : Text × Text × List Diagnostic) :
    (if group.1 ∈ files then
        excessOfGroup (baseline.restrict files) group
      else
        none) =
      (baseline.excessOfGroup group).filter
        fun excess => excess.filename ∈ files := by
  simp only [excessOfGroup, count_restrict]
  by_cases kept : group.1 ∈ files
  · simp only [kept, ↓reduceIte]
    split <;> simp [Option.filter, kept]
  · simp only [kept, ↓reduceIte]
    split <;> simp [Option.filter, kept]

theorem excess_restrict
    (baseline : Baseline)
    (diagnostics : List Diagnostic) :
    excess (baseline.restrict files) (restrict files diagnostics) =
      (baseline.excess diagnostics).filter
        fun group => group.filename ∈ files := by
  unfold excess
  rw [Observation.ofDiagnostics_restrict, Ledger.items_restrict,
    List.filterMap_filter, List.filter_filterMap]
  apply List.filterMap_congr
  intro group _
  simpa using excessOfGroup_restrict files baseline group

theorem pairsOfEither_restrict (before after : Baseline) :
    pairsOfEither (before.restrict files) (after.restrict files) =
      (pairsOfEither before after).filter fun pair => pair.1 ∈ files := by
  unfold pairsOfEither
  rw [pairs_restrict, pairs_restrict, ← List.filter_append,
    Sorting.sortOnce_filter pairPrecedes_uniqueOrder]

/-- The change of a pair is the same between parts of the baselines that have its file. -/
private theorem changeAt?_restrict
    (before after : Baseline)
    (pair : Text × Text) :
    (if pair.1 ∈ files then
        changeAt? (before.restrict files) (after.restrict files) pair
      else
        none) =
      (changeAt? before after pair).filter
        fun change => change.filename ∈ files := by
  simp only [changeAt?, Ledger.get?_restrict]
  by_cases kept : pair.1 ∈ files
  · simp only [kept, ↓reduceIte]
    split <;> simp [Option.filter, kept]
  · simp only [kept, ↓reduceIte]
    split <;> simp [Option.filter, kept]

theorem changes_restrict (before after : Baseline) :
    changes (before.restrict files) (after.restrict files) =
      (before.changes after).filter fun change => change.filename ∈ files := by
  unfold changes
  rw [pairsOfEither_restrict, List.filterMap_filter, List.filter_filterMap]
  apply List.filterMap_congr
  intro pair _
  simpa using changeAt?_restrict files before after pair

/--
To compute with the counts and the diagnostics of some files only gives what is
computed about these files with all of them, in the same order.  So two runs that
agree on these files agree on everything that is computed about them, whatever
else they contain.
-/
theorem files_are_independent
    (baseline : Baseline)
    (diagnostics : List Diagnostic) :
    (observed (restrict files diagnostics) =
          (observed diagnostics).restrict files ∧
        absorb (baseline.restrict files) (restrict files diagnostics) =
          (baseline.absorb diagnostics).restrict files ∧
        tighten (baseline.restrict files) (restrict files diagnostics) =
          (baseline.tighten diagnostics).restrict files) ∧
      excess (baseline.restrict files) (restrict files diagnostics) =
        (baseline.excess diagnostics).filter
          (fun group => group.filename ∈ files) ∧
      (∀ after : Baseline,
        changes (baseline.restrict files) (after.restrict files) =
          (baseline.changes after).filter
            fun change => change.filename ∈ files) ∧
      ∀ (other : Baseline) (others : List Diagnostic),
        other.restrict files = baseline.restrict files →
        restrict files others = restrict files diagnostics →
        ((observed others).restrict files =
              (observed diagnostics).restrict files ∧
            (other.absorb others).restrict files =
              (baseline.absorb diagnostics).restrict files ∧
            (other.tighten others).restrict files =
              (baseline.tighten diagnostics).restrict files) ∧
          (other.excess others).filter (fun group => group.filename ∈ files) =
            (baseline.excess diagnostics).filter
              (fun group => group.filename ∈ files) ∧
          ∀ after otherAfter : Baseline,
            otherAfter.restrict files = after.restrict files →
            (other.changes otherAfter).filter
                (fun change => change.filename ∈ files) =
              (baseline.changes after).filter
                fun change => change.filename ∈ files := by
  refine
    ⟨⟨observed_restrict files diagnostics,
        absorb_restrict files baseline diagnostics,
        tighten_restrict files baseline diagnostics⟩,
      excess_restrict files baseline diagnostics,
      changes_restrict files baseline, ?_⟩
  intro other others sameCounts sameSeen
  refine ⟨⟨?_, ?_, ?_⟩, ?_, ?_⟩
  · rw [← observed_restrict, sameSeen, observed_restrict]
  · rw [← absorb_restrict, sameCounts, sameSeen, absorb_restrict]
  · rw [← tighten_restrict, sameCounts, sameSeen, tighten_restrict]
  · rw [← excess_restrict, sameCounts, sameSeen, excess_restrict]
  · intro after otherAfter sameAfter
    rw [← changes_restrict, sameCounts, sameAfter, changes_restrict]

/--
A second file with counts and violations of its own changes the baseline, and
nothing that is reported about the first one.
-/
theorem second_file_leaves_first_alone :
    let baseline : Baseline := Ledger.empty.set [0x61] [0x72] 1
    let other : Baseline := (Ledger.empty.set [0x62] [0x72] 4).set [0x61] [0x72] 1
    let seen : Diagnostic := { filename := [0x61], rule := [0x72] }
    let unrelated : Diagnostic := { filename := [0x62], rule := [0x73] }
    let diagnostics := [seen, seen]
    let others := [unrelated, seen, unrelated, seen]
    other.restrict {[0x61]} = baseline.restrict {[0x61]} ∧
      restrict {[0x61]} others = restrict {[0x61]} diagnostics ∧
      other.absorb others ≠ baseline.absorb diagnostics ∧
      (other.absorb others).restrict {[0x61]} =
        (baseline.absorb diagnostics).restrict {[0x61]} ∧
      (other.excess others).filter (fun group => group.filename ∈ ({[0x61]} : Set Text)) =
        (baseline.excess diagnostics).filter
          fun group => group.filename ∈ ({[0x61]} : Set Text) := by
  intro baseline other seen unrelated diagnostics others
  have sameCounts : other.restrict {[0x61]} = baseline.restrict {[0x61]} := by
    decide
  have sameSeen : restrict {[0x61]} others = restrict {[0x61]} diagnostics := by
    decide
  obtain ⟨_, _, _, agree⟩ :=
    files_are_independent {[0x61]} baseline diagnostics
  obtain ⟨⟨_, absorbed, _⟩, reported, _⟩ :=
    agree other others sameCounts sameSeen
  exact ⟨sameCounts, sameSeen, by decide, absorbed, reported⟩

end Tolerance.Baseline
