import Tolerance.Proofs.Occurrences

namespace Tolerance.Baseline

/-!
# The least baseline that accepts an observation

Absorbing an observation forgets what older counts said of the files that were
seen, and tightening with it forgets the files that were not.  Both together, in
either order, leave nothing but the observed baseline.  A baseline accepts the
observation if and only if it tolerates at least as much of every pair.
-/

open Diagnostic

/-- The observed baseline tolerates of each pair what was seen of it. -/
theorem count_observed
    (diagnostics : List Diagnostic)
    (filename rule : Text) :
    (observed diagnostics).count filename rule =
      occurrences diagnostics filename rule := by
  rw [count, get?_observed]
  split
  · next nothing =>
      rw [nothing]
      rfl
  · rfl

/-- To absorb an observation and to tighten with it then leaves what was seen. -/
theorem tighten_absorb
    (baseline : Baseline)
    (diagnostics : List Diagnostic) :
    (baseline.absorb diagnostics).tighten diagnostics =
      observed diagnostics := by
  apply Ledger.eq_of_canonical (canonical_tighten _ _) (canonical_observed _)
  intro filename rule
  by_cases occurred : occurrences diagnostics filename rule = 0
  · rw [get?_tighten_of_not_seen occurred, get?_observed, if_pos occurred]
  · have seen : filename ∈ diagnostics.map Diagnostic.filename :=
      mem_map_filename_iff.mpr ⟨rule, occurred⟩
    rw [get?_tighten_of_seen occurred, get?_absorb_of_mem seen, get?_observed,
      if_neg occurred, Option.map_some, Int.min_self]

/-- To tighten with an observation and to absorb it then leaves what was seen. -/
theorem absorb_tighten
    (baseline : Baseline)
    (diagnostics : List Diagnostic) :
    (baseline.tighten diagnostics).absorb diagnostics =
      observed diagnostics := by
  apply Ledger.eq_of_canonical (canonical_absorb _ _) (canonical_observed _)
  intro filename rule
  by_cases seen : filename ∈ diagnostics.map Diagnostic.filename
  · exact get?_absorb_of_mem seen _ rule
  · -- Of a file that was not seen tightening has left nothing to be kept.
    have occurred : occurrences diagnostics filename rule = 0 := by
      refine Decidable.not_not.mp fun occurred => seen ?_
      exact mem_map_filename_iff.mpr ⟨rule, occurred⟩
    rw [get?_absorb_of_not_mem seen, get?_tighten_of_not_seen occurred,
      get?_observed, if_pos occurred]

/-- A baseline accepts an observation if and only if it tolerates at least what was seen. -/
theorem excess_eq_nil_iff_observed_le
    {baseline : Baseline}
    (nonnegative : baseline.Nonnegative)
    (diagnostics : List Diagnostic) :
    baseline.excess diagnostics = [] ↔
      ∀ filename rule,
        (observed diagnostics).count filename rule ≤
          baseline.count filename rule := by
  simp only [excess_eq_nil_iff nonnegative, count_observed]

theorem nonnegative_observed (diagnostics : List Diagnostic) :
    (observed diagnostics).Nonnegative := by
  rw [nonnegative_iff]
  intro filename rule tolerated found
  rw [get?_observed] at found
  split at found
  · cases found
  · cases found
    exact Int.natCast_nonneg _

/--
Absorbing an observation and tightening with it meet in the observed baseline:
whichever comes first, the same baseline is left in the same order.  It accepts
the observation, and the baselines that accept it are those that tolerate at
least as much of every pair.
-/
theorem revisions_meet_in_least_baseline
    (baseline : Baseline)
    (diagnostics : List Diagnostic) :
    (baseline.absorb diagnostics).tighten diagnostics = observed diagnostics ∧
      (baseline.tighten diagnostics).absorb diagnostics = observed diagnostics ∧
      (observed diagnostics).excess diagnostics = [] ∧
      ∀ other : Baseline,
        other.Nonnegative →
        (other.excess diagnostics = [] ↔
          ∀ filename rule,
            (observed diagnostics).count filename rule ≤
              other.count filename rule) := by
  refine
    ⟨tighten_absorb baseline diagnostics, absorb_tighten baseline diagnostics,
      ?_, fun other nonnegative =>
        excess_eq_nil_iff_observed_le nonnegative diagnostics⟩
  refine
    (excess_eq_nil_iff_observed_le (nonnegative_observed diagnostics)
      diagnostics).mpr ?_
  intro filename rule
  exact Int.le_refl _

/--
A baseline with a file and a rule that are gone, a count that is too low and one
that is zero comes to what was seen, and so it accepts it, while a baseline that
lacks one violation does not.
-/
theorem stale_baseline_comes_to_what_was_seen :
    let stale : Baseline :=
      (((Ledger.empty.set [0x62] [0x72] 1).set [0x62] [0x73] 4).set
        [0x61] [0x72] 0).set [0x63] [0x72] 2
    let first : Diagnostic := { filename := [0x62], rule := [0x72] }
    let second : Diagnostic := { filename := [0x61], rule := [0x72] }
    let diagnostics := [first, second, first]
    let lacking : Baseline :=
      (Ledger.empty.set [0x61] [0x72] 5).set [0x62] [0x72] 1
    lacking.Nonnegative ∧
      (stale.absorb diagnostics).tighten diagnostics =
        (stale.tighten diagnostics).absorb diagnostics ∧
      (observed diagnostics).items =
        [([0x61], [0x72], 1), ([0x62], [0x72], 2)] ∧
      (observed diagnostics).excess diagnostics = [] ∧
      lacking.excess diagnostics ≠ [] := by
  intro stale first second diagnostics lacking
  have nonnegative : lacking.Nonnegative := by decide
  obtain ⟨tightenedLast, absorbedLast, accepted, least⟩ :=
    revisions_meet_in_least_baseline stale diagnostics
  refine
    ⟨nonnegative, tightenedLast.trans absorbedLast.symm, by decide, accepted, ?_⟩
  intro nothing
  have enough := (least lacking nonnegative).mp nothing [0x62] [0x72]
  exact absurd enough (by decide)

end Tolerance.Baseline
