import Mathlib.Algebra.Order.BigOperators.Group.Finset
import Tolerance.Proofs.Baseline
import Tolerance.Proofs.Revision

namespace Tolerance

/-!
# The ratchet

Each run tightens the baseline that the run before it left.  After any number of
runs a count is the least of what was tolerated at first and of what each run
saw, and it is gone as soon as one run saw nothing of it.  Neither the order of
the runs nor a run that comes twice makes a difference.
-/

open Diagnostic

namespace Baseline

/-- The total is the sum of the counts of the listed pairs. -/
theorem total_eq_sum (baseline : Baseline) :
    baseline.total =
      ∑ pair ∈ baseline.pairs.toFinset, baseline.count pair.1 pair.2 := by
  have listedCounts :
      baseline.pairs.map (fun pair => baseline.count pair.1 pair.2) =
        baseline.items.map fun item => item.2.2 := by
    rw [pairs, List.map_map]
    refine List.map_congr_left ?_
    rintro ⟨filename, rule, tolerated⟩ member
    simp [count, Ledger.mem_items_iff.mp member]
  have distinct : baseline.pairs.Nodup := baseline.items_pairs_nodup
  rw [List.sum_toFinset _ distinct, listedCounts, total, List.sum,
    List.foldr_map]

/-- How a baseline is related to one that tolerates no more in any respect. -/
structure Shrinks (before after : Baseline) : Prop where
  files : ∀ filename ∈ after.filenames, filename ∈ before.filenames
  entries : ∀ pair ∈ after.pairs, pair ∈ before.pairs
  counts :
    ∀ filename rule,
      after.count filename rule ≤ before.count filename rule
  total : after.total ≤ before.total

/-- Without new pairs and higher counts the total does not rise. -/
private theorem total_le_total
    {before after : Baseline}
    (nonnegative : before.Nonnegative)
    (entries : ∀ pair ∈ after.pairs, pair ∈ before.pairs)
    (counts :
      ∀ filename rule,
        after.count filename rule ≤ before.count filename rule) :
    after.total ≤ before.total := by
  rw [total_eq_sum, total_eq_sum]
  calc
    ∑ pair ∈ after.pairs.toFinset, after.count pair.1 pair.2
        ≤ ∑ pair ∈ after.pairs.toFinset, before.count pair.1 pair.2 :=
      Finset.sum_le_sum fun pair _ => counts pair.1 pair.2
    _ ≤ ∑ pair ∈ before.pairs.toFinset, before.count pair.1 pair.2 := by
      refine Finset.sum_le_sum_of_subset_of_nonneg ?_ ?_
      · intro pair member
        exact List.mem_toFinset.mpr (entries pair (List.mem_toFinset.mp member))
      · intro pair _ _
        exact nonnegative.count pair.1 pair.2

/--
What tightening tolerates is the smaller one of what was tolerated and what
was seen.
-/
theorem count_tighten
    {baseline : Baseline}
    (nonnegative : baseline.Nonnegative)
    (diagnostics : List Diagnostic)
    (filename rule : Text) :
    (baseline.tighten diagnostics).count filename rule =
      min (baseline.count filename rule)
        (occurrences diagnostics filename rule) := by
  unfold count
  rw [get?_tighten]
  cases found : baseline.get? filename rule with
  | none =>
      simp
  | some tolerated =>
      have bound := nonnegative.get? found
      simp only [Option.bind_some, tightenedCount_eq, Option.getD_some]
      split
      · next nothing =>
          simp [nothing, bound]
      · rfl

theorem Nonnegative.tighten
    {baseline : Baseline}
    (nonnegative : baseline.Nonnegative)
    (diagnostics : List Diagnostic) :
    (baseline.tighten diagnostics).Nonnegative := by
  rintro ⟨filename, rule, left⟩ member
  have found := Ledger.mem_items_iff.mp member
  have sameCount := count_tighten nonnegative diagnostics filename rule
  have bound := nonnegative.count filename rule
  rw [Baseline.count, found] at sameCount
  simp only [Option.getD_some] at sameCount ⊢
  omega

/-- One run tolerates no more than the run before it, in any respect. -/
theorem Nonnegative.shrinks_tighten
    {baseline : Baseline}
    (nonnegative : baseline.Nonnegative)
    (diagnostics : List Diagnostic) :
    Shrinks baseline (baseline.tighten diagnostics) := by
  have entries :
      ∀ pair ∈ (baseline.tighten diagnostics).pairs,
        pair ∈ baseline.pairs := by
    rintro ⟨filename, rule⟩ member
    obtain ⟨left, found⟩ := mem_pairs_iff.mp member
    rw [get?_tighten] at found
    obtain ⟨tolerated, before, _⟩ := Option.bind_eq_some_iff.mp found
    exact mem_pairs_iff.mpr ⟨tolerated, before⟩
  have counts :
      ∀ filename rule,
        (baseline.tighten diagnostics).count filename rule ≤
          baseline.count filename rule := by
    intro filename rule
    rw [count_tighten nonnegative]
    exact Int.min_le_left _ _
  refine ⟨?_, entries, counts, total_le_total nonnegative entries counts⟩
  intro filename listed
  obtain ⟨rules, inFiles⟩ :=
    Option.isSome_iff_exists.mp (Ledger.mem_filenames_iff.mp listed)
  obtain ⟨rule, left, found⟩ :=
    Ledger.exists_get?_of_listed
      (canonical_tighten baseline diagnostics).pruned inFiles
  have member := entries (filename, rule) (mem_pairs_iff.mpr ⟨left, found⟩)
  obtain ⟨tolerated, before⟩ := mem_pairs_iff.mp member
  obtain ⟨rulesBefore, listedBefore, _⟩ := Ledger.listed_of_get? before
  exact Ledger.mem_filenames_iff.mpr (by simp [listedBefore])

/-- Tighten with what several runs saw, one run after the other. -/
def tightenRuns
    (baseline : Baseline)
    (runs : List (List Diagnostic)) :
    Baseline :=
  runs.foldl tighten baseline

/-- What each of several runs saw of a rule in a file. -/
def occurrencesByRun
    (runs : List (List Diagnostic))
    (filename rule : Text) :
    List Int :=
  runs.map fun run => (occurrences run filename rule : Int)

theorem Nonnegative.tightenRuns
    {baseline : Baseline}
    (nonnegative : baseline.Nonnegative)
    (runs : List (List Diagnostic)) :
    (baseline.tightenRuns runs).Nonnegative := by
  induction runs generalizing baseline with
  | nil =>
      exact nonnegative
  | cons run later inductionHypothesis =>
      exact inductionHypothesis (nonnegative.tighten run)

/-- At least one run leaves a canonical baseline. -/
theorem canonical_tightenRuns
    (baseline : Baseline)
    {runs : List (List Diagnostic)}
    (someRun : runs ≠ []) :
    (baseline.tightenRuns runs).Canonical := by
  rw [← List.dropLast_append_getLast someRun, tightenRuns, List.foldl_append]
  exact canonical_tighten _ _

/--
After all runs a rule is listed if it was listed at first and every run saw it,
with the least of all these counts.
-/
theorem get?_tightenRuns
    (baseline : Baseline)
    (runs : List (List Diagnostic))
    (filename rule : Text) :
    (baseline.tightenRuns runs).get? filename rule =
      if ∀ run ∈ runs, occurrences run filename rule ≠ 0 then
        (baseline.get? filename rule).bind fun tolerated =>
          (tolerated :: occurrencesByRun runs filename rule).min?
      else
        none := by
  induction runs generalizing baseline with
  | nil =>
      simp [tightenRuns, occurrencesByRun]
  | cons run later inductionHypothesis =>
      have nextRun :
          baseline.tightenRuns (run :: later) =
            (baseline.tighten run).tightenRuns later :=
        rfl
      rw [nextRun, inductionHypothesis, get?_tighten]
      by_cases nothing : occurrences run filename rule = 0
      · have dropped :
            (baseline.get? filename rule).bind (fun tolerated =>
              tightenedCount tolerated 0) = none := by
          cases baseline.get? filename rule <;> rfl
        simp [nothing, dropped]
      · have lowered
            (tolerated : Int) :
            (tightenedCount tolerated (occurrences run filename rule)).bind
                (fun left =>
                  (left :: occurrencesByRun later filename rule).min?) =
              (tolerated ::
                occurrencesByRun (run :: later) filename rule).min? := by
          rw [tightenedCount_eq, if_neg nothing]
          rfl
        simp only [Option.bind_assoc, lowered, List.forall_mem_cons,
          nothing, ne_eq, not_false_eq_true, true_and]

private theorem min?_congr
    {left right : List Int}
    (same : ∀ number, number ∈ left ↔ number ∈ right) :
    left.min? = right.min? := by
  apply Option.ext
  intro least
  simp only [List.min?_eq_some_iff, same]

/-- Runs that saw the same, in any order and any number of times, leave the same. -/
theorem tightenRuns_congr
    (baseline : Baseline)
    {runs others : List (List Diagnostic)}
    (someRun : runs ≠ [])
    (same : ∀ run, run ∈ others ↔ run ∈ runs) :
    baseline.tightenRuns others = baseline.tightenRuns runs := by
  have someOther : others ≠ [] := by
    obtain ⟨run, member⟩ := List.exists_mem_of_ne_nil runs someRun
    exact List.ne_nil_of_mem ((same run).mpr member)
  refine Ledger.eq_of_canonical
    (baseline.canonical_tightenRuns someOther)
    (baseline.canonical_tightenRuns someRun) ?_
  intro filename rule
  rw [get?_tightenRuns, get?_tightenRuns]
  have sameCounts
      (tolerated : Int) :
      (tolerated :: occurrencesByRun others filename rule).min? =
        (tolerated :: occurrencesByRun runs filename rule).min? := by
    apply min?_congr
    intro number
    simp [occurrencesByRun, same]
  simp only [same, sameCounts]

/--
After any number of runs, at least one, a rule of a file is listed if and only
if it was listed at first and every run saw it, and its count is the least of
what was tolerated at first and of what each run saw.  The same runs in another
order, or some of them more often, leave the same baseline.  No run adds a file
or a pair, no run raises a count or the total, and no file is left without
rules.
-/
theorem tightenRuns_ratchets
    (baseline : Baseline)
    (nonnegative : baseline.Nonnegative)
    (runs : List (List Diagnostic))
    (someRun : runs ≠ []) :
    (∀ filename rule left,
        (baseline.tightenRuns runs).get? filename rule = some left ↔
          ∃ tolerated,
            baseline.get? filename rule = some tolerated ∧
              (∀ run ∈ runs, ∃ diagnostic ∈ run,
                diagnostic.filename = filename ∧ diagnostic.rule = rule) ∧
              (tolerated :: occurrencesByRun runs filename rule).min? =
                some left) ∧
      (∀ others : List (List Diagnostic),
        (∀ run, run ∈ others ↔ run ∈ runs) →
        baseline.tightenRuns others = baseline.tightenRuns runs) ∧
      (∀ earlier run later,
        runs = earlier ++ run :: later →
        Shrinks (baseline.tightenRuns earlier)
          (baseline.tightenRuns (earlier ++ [run]))) ∧
      (baseline.tightenRuns runs).Pruned := by
  refine ⟨?_, ?_, ?_, (baseline.canonical_tightenRuns someRun).pruned⟩
  · intro filename rule left
    rw [get?_tightenRuns]
    simp only [occurrences_ne_zero_iff]
    split
    · next everyRunSaw =>
        simp only [Option.bind_eq_some_iff]
        constructor
        · rintro ⟨tolerated, before, least⟩
          exact ⟨tolerated, before, everyRunSaw, least⟩
        · rintro ⟨tolerated, before, _, least⟩
          exact ⟨tolerated, before, least⟩
    · next someRunMissed =>
        constructor
        · intro listed
          cases listed
        · rintro ⟨_, _, everyRunSaw, _⟩
          exact (someRunMissed everyRunSaw).elim
  · intro others same
    exact tightenRuns_congr baseline someRun same
  · intro earlier run _ _
    have oneMore :
        baseline.tightenRuns (earlier ++ [run]) =
          (baseline.tightenRuns earlier).tighten run := by
      simp [tightenRuns]
    rw [oneMore]
    exact (nonnegative.tightenRuns earlier).shrinks_tighten run

/--
Of three tolerated violations one is left after runs that saw two and one of
them.
-/
theorem tightenRuns_leaves_least :
    let baseline : Baseline :=
      (Ledger.empty.set [0x61] [0x72] 3).set [0x61] [0x73] 2
    let first : Diagnostic := { filename := [0x61], rule := [0x72] }
    let second : Diagnostic := { filename := [0x61], rule := [0x73] }
    let runs := [[first, second, first], [first]]
    baseline.Nonnegative ∧ runs ≠ [] ∧
      (baseline.tightenRuns runs).get? [0x61] [0x72] = some 1 ∧
      (∀ left, (baseline.tightenRuns runs).get? [0x61] [0x73] ≠ some left) ∧
      baseline.tightenRuns runs.reverse = baseline.tightenRuns runs := by
  intro baseline first second runs
  have nonnegative : baseline.Nonnegative := by decide
  have someRun : runs ≠ [] := by decide
  obtain ⟨entries, congruent, _⟩ :=
    tightenRuns_ratchets baseline nonnegative runs someRun
  refine ⟨nonnegative, someRun, ?_, ?_, ?_⟩
  · exact (entries _ _ _).mpr ⟨3, by decide, by decide, by decide⟩
  · intro left listed
    obtain ⟨_, _, everyRunSaw, _⟩ := (entries _ _ _).mp listed
    exact absurd everyRunSaw (by decide)
  · exact congruent _ fun run => List.mem_reverse

end Baseline

end Tolerance
