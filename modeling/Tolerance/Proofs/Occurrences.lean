import Tolerance.Baseline.Document
import Tolerance.Proofs.Excess

namespace Tolerance

/-!
# Only how often something was seen counts

A revision of a baseline depends on an observation only through the number of
times that each rule occurred in each file.  So the order of the diagnostics
leaves no trace in a baseline, and in a report it decides on nothing but the
order of the groups and of the diagnostics in each of them.
-/

open Diagnostic

namespace Diagnostic

/-- Every rule occurred in every file as often in one observation as in the other. -/
def SameOccurrences (left right : List Diagnostic) : Prop :=
  ∀ filename rule,
    occurrences left filename rule = occurrences right filename rule

/-- A file was seen as soon as some rule occurred in it. -/
theorem mem_map_filename_iff
    {diagnostics : List Diagnostic}
    {filename : Text} :
    filename ∈ diagnostics.map Diagnostic.filename ↔
      ∃ rule, occurrences diagnostics filename rule ≠ 0 := by
  simp only [occurrences_ne_zero_iff, List.mem_map]
  constructor
  · intro seen
    obtain ⟨diagnostic, member, same⟩ := seen
    exact ⟨diagnostic.rule, diagnostic, member, same, rfl⟩
  · intro occurred
    obtain ⟨_, diagnostic, member, same, _⟩ := occurred
    exact ⟨diagnostic, member, same⟩

theorem allAbout_perm
    {left right : List Diagnostic}
    (reordered : left.Perm right)
    (filename rule : Text) :
    (allAbout left filename rule).Perm (allAbout right filename rule) :=
  reordered.filter _

theorem sameOccurrences_of_perm
    {left right : List Diagnostic}
    (reordered : left.Perm right) :
    SameOccurrences left right :=
  fun filename rule => (allAbout_perm reordered filename rule).length_eq

variable {left right : List Diagnostic}

theorem SameOccurrences.mem_map_filename_iff
    (same : SameOccurrences left right)
    {filename : Text} :
    filename ∈ left.map Diagnostic.filename ↔
      filename ∈ right.map Diagnostic.filename := by
  simp only [Diagnostic.mem_map_filename_iff, same filename]

end Diagnostic

namespace Baseline

/-- The observed baseline is canonical. -/
theorem canonical_observed (diagnostics : List Diagnostic) :
    (observed diagnostics).Canonical := by
  refine Ledger.Pruned.canonical_sorted ?_
  intro filename rules listed
  -- A file is listed only if one of its rules occurred, and that one has a count.
  have seen : filename ∈ (observed diagnostics).filenames :=
    Ledger.mem_filenames_sorted.mpr
      (Ledger.mem_filenames_iff.mpr (by simp [listed]))
  obtain ⟨rule, occurred⟩ :=
    mem_map_filename_iff.mp (mem_filenames_observed.mp seen)
  have counted :
      (Observation.ofDiagnostics diagnostics).counts.get? filename rule =
        some (occurrences diagnostics filename rule : Int) := by
    rw [← Ledger.get?_sorted, ← observed, get?_observed, if_neg occurred]
  obtain ⟨sameRules, listedToo, found⟩ := Ledger.listed_of_get? counted
  rw [listed] at listedToo
  cases listedToo
  exact OrderedMap.isEmpty_eq_false_of_get? found

section SameOccurrences

variable {left right : List Diagnostic}

theorem observed_congr
    (same : SameOccurrences left right) :
    observed left = observed right := by
  apply Ledger.eq_of_canonical (canonical_observed left)
    (canonical_observed right)
  intro filename rule
  simp only [get?_observed, same filename rule]

theorem absorb_congr
    (baseline : Baseline)
    (same : SameOccurrences left right) :
    baseline.absorb left = baseline.absorb right := by
  apply Ledger.eq_of_canonical (canonical_absorb baseline left)
    (canonical_absorb baseline right)
  intro filename rule
  simp only [get?_absorb, same.mem_map_filename_iff, observed_congr same]

theorem tighten_congr
    (baseline : Baseline)
    (same : SameOccurrences left right) :
    baseline.tighten left = baseline.tighten right := by
  apply Ledger.eq_of_canonical (canonical_tighten baseline left)
    (canonical_tighten baseline right)
  intro filename rule
  simp only [get?_tighten, same filename rule]

end SameOccurrences

end Baseline

namespace Excess

/-- What a report says of a group beside its diagnostics. -/
structure Tally where
  filename : Text
  rule : Text
  expected : Int
  actual : Int
  deriving Repr, DecidableEq

/-- The file and the rule of a group with its two counts. -/
def tally (group : Excess) : Tally where
  filename := group.filename
  rule := group.rule
  expected := group.expected
  actual := group.actual

end Excess

namespace Baseline

/-- A reported group holds all diagnostics about its rule in its file. -/
theorem diagnostics_of_mem_excess
    {baseline : Baseline}
    {diagnostics : List Diagnostic}
    {group : Excess}
    (reported : group ∈ baseline.excess diagnostics) :
    group.diagnostics = allAbout diagnostics group.filename group.rule :=
  (mem_excess_iff.mp reported).1

/-- A group is reported of two observations in which every rule occurred as often. -/
theorem exists_mem_excess_of_sameOccurrences
    {baseline : Baseline}
    {left right : List Diagnostic}
    (same : SameOccurrences left right)
    {group : Excess}
    (reported : group ∈ baseline.excess left) :
    ∃ other ∈ baseline.excess right, other.tally = group.tally := by
  obtain ⟨held, something, actual, expected, tooMany⟩ :=
    mem_excess_iff.mp reported
  rw [held] at something
  have occurred : occurrences right group.filename group.rule ≠ 0 := by
    rw [← same]
    exact mt List.length_eq_zero_iff.mp something
  refine
    ⟨{ group with
        diagnostics := allAbout right group.filename group.rule },
      mem_excess_iff.mpr ⟨rfl, ?_, ?_, expected, tooMany⟩, rfl⟩
  · exact mt List.length_eq_zero_iff.mpr occurred
  · rw [actual, same]

/-- No pair of file and rule is reported twice. -/
theorem excess_tally_nodup
    (baseline : Baseline)
    (diagnostics : List Diagnostic) :
    ((baseline.excess diagnostics).map Excess.tally).Nodup := by
  refine List.pairwise_map.mpr (List.pairwise_filterMap.mpr ?_)
  refine (List.pairwise_map.mp
    (Observation.ofDiagnostics diagnostics).items_pairs_nodup).imp ?_
  intro first second different firstGroup compared secondGroup comparedToo same
  have samePair := Excess.Tally.mk.inj same
  apply different
  rw [← pair_of_excessOfGroup compared, ← pair_of_excessOfGroup comparedToo,
    samePair.1, samePair.2.1]

/-- The pair of a group decides its counts. -/
theorem excess_pairs_nodup
    (baseline : Baseline)
    (diagnostics : List Diagnostic) :
    ((baseline.excess diagnostics).map fun group =>
      (group.filename, group.rule)).Nodup := by
  refine List.pairwise_map.mpr ?_
  refine (List.pairwise_map.mp (excess_tally_nodup baseline diagnostics)).imp_of_mem ?_
  intro first second reported reportedToo different samePair
  obtain ⟨sameFile, sameRule⟩ := Prod.mk.inj samePair
  obtain ⟨_, _, actual, expected, _⟩ := mem_excess_iff.mp reported
  obtain ⟨_, _, actualToo, expectedToo, _⟩ := mem_excess_iff.mp reportedToo
  refine different ?_
  rw [Excess.tally, Excess.tally, actual, actualToo, expected, expectedToo,
    sameFile, sameRule]

/-- What groups are over by is no more in all than the diagnostics about them. -/
private theorem totalAmount_bounds
    {diagnostics : List Diagnostic}
    {groups : List Excess}
    (bounds :
      ∀ group ∈ groups,
        0 ≤ group.amount ∧
          group.amount ≤ occurrences diagnostics group.filename group.rule) :
    0 ≤ Excess.totalAmount groups ∧
      Excess.totalAmount groups ≤
        ((groups.map fun group => (group.filename, group.rule)).map fun pair =>
          occurrences diagnostics pair.1 pair.2).sum := by
  induction groups with
  | nil =>
      exact ⟨Int.le_refl 0, Int.le_refl 0⟩
  | cons group groups inductionHypothesis =>
      obtain ⟨groupBounds, restBounds⟩ := List.forall_mem_cons.mp bounds
      have rest := inductionHypothesis restBounds
      have split :
          Excess.totalAmount (group :: groups) =
            group.amount + Excess.totalAmount groups :=
        rfl
      rw [split, List.map_cons, List.map_cons, List.sum_cons, Int.natCast_add]
      dsimp only
      omega

/-- What is in excess altogether is no more than what was seen. -/
theorem totalAmount_excess_bounds
    {baseline : Baseline}
    (nonnegative : baseline.Nonnegative)
    (diagnostics : List Diagnostic) :
    0 ≤ Excess.totalAmount (baseline.excess diagnostics) ∧
      Excess.totalAmount (baseline.excess diagnostics) ≤ diagnostics.length := by
  have bounds :
      ∀ group ∈ baseline.excess diagnostics,
        0 ≤ group.amount ∧
          group.amount ≤ occurrences diagnostics group.filename group.rule := by
    intro group reported
    obtain ⟨_, _, actual, expected, tooMany⟩ := mem_excess_iff.mp reported
    have tolerated := nonnegative.count group.filename group.rule
    rw [Excess.amount]
    omega
  have amounts := totalAmount_bounds bounds
  have seen :=
    sum_occurrences_le diagnostics (excess_pairs_nodup baseline diagnostics)
  omega

/--
The order in which violations were seen leaves no trace in a baseline: whether it
is made from them, absorbs them or is tightened by them, it is the same down to
the order of its files and rules, and so is the text in which it is kept.  The
same groups are reported with the same counts, each with the same diagnostics in
some order.
-/
theorem order_of_diagnostics_is_immaterial
    (baseline : Baseline)
    {diagnostics others : List Diagnostic}
    (reordered : others.Perm diagnostics) :
    (observed others = observed diagnostics ∧
        baseline.absorb others = baseline.absorb diagnostics ∧
        baseline.tighten others = baseline.tighten diagnostics) ∧
      (fileText (observed others) = fileText (observed diagnostics) ∧
        fileText (baseline.absorb others) =
          fileText (baseline.absorb diagnostics) ∧
        fileText (baseline.tighten others) =
          fileText (baseline.tighten diagnostics)) ∧
      ((baseline.excess others).map Excess.tally).Perm
        ((baseline.excess diagnostics).map Excess.tally) ∧
      ∀ other ∈ baseline.excess others,
        ∀ group ∈ baseline.excess diagnostics,
          other.tally = group.tally →
          other.diagnostics.Perm group.diagnostics := by
  have same := sameOccurrences_of_perm reordered
  have sameObserved := observed_congr same
  have sameAbsorbed := baseline.absorb_congr same
  have sameTightened := baseline.tighten_congr same
  refine
    ⟨⟨sameObserved, sameAbsorbed, sameTightened⟩,
      ⟨by rw [sameObserved], by rw [sameAbsorbed], by rw [sameTightened]⟩,
      ?_, ?_⟩
  · apply (List.perm_ext_iff_of_nodup (excess_tally_nodup baseline others)
      (excess_tally_nodup baseline diagnostics)).mpr
    have reportedToo
        {left right : List Diagnostic}
        (sameLeft : SameOccurrences left right)
        {tally : Excess.Tally}
        (member : tally ∈ (baseline.excess left).map Excess.tally) :
        tally ∈ (baseline.excess right).map Excess.tally := by
      obtain ⟨group, reported, rfl⟩ := List.mem_map.mp member
      obtain ⟨other, reportedOther, sameTally⟩ :=
        exists_mem_excess_of_sameOccurrences sameLeft reported
      exact List.mem_map.mpr ⟨other, reportedOther, sameTally⟩
    intro tally
    exact
      ⟨reportedToo same,
        reportedToo fun filename rule => (same filename rule).symm⟩
  · intro other reportedOther group reported sameTally
    have samePair := Excess.Tally.mk.inj sameTally
    rw [diagnostics_of_mem_excess reportedOther,
      diagnostics_of_mem_excess reported, samePair.1, samePair.2.1]
    exact allAbout_perm reordered _ _

/--
Three violations of two rules in two files, seen in another order, are absorbed
into the same baseline and reported as the same groups.
-/
theorem interleaved_diagnostics_are_absorbed_alike :
    let baseline : Baseline := Ledger.empty.set [0x62] [0x72] 1
    let first : Diagnostic := { filename := [0x62], rule := [0x72], line := some 1 }
    let second : Diagnostic := { filename := [0x61], rule := [0x73] }
    let third : Diagnostic := { filename := [0x62], rule := [0x72], line := some 2 }
    let diagnostics := [first, second, third]
    let others := [second, third, first]
    others.Perm diagnostics ∧
      baseline.absorb others = baseline.absorb diagnostics ∧
      baseline.excess others ≠ baseline.excess diagnostics ∧
      ((baseline.excess others).map Excess.tally).Perm
        ((baseline.excess diagnostics).map Excess.tally) := by
  intro baseline first second third diagnostics others
  have reordered : others.Perm diagnostics := by decide
  obtain ⟨⟨_, absorbed, _⟩, _, reported, _⟩ :=
    order_of_diagnostics_is_immaterial baseline reordered
  exact ⟨reordered, absorbed, by decide, reported⟩

end Baseline

end Tolerance
