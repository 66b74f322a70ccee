import Tolerance.Baseline.Excess
import Tolerance.Proofs.Ratchet

namespace Tolerance

/-!
# What is reported

A pair of file and rule is reported when more was seen of it than is tolerated.
Tightening with one observation changes no report of this observation, and hides
nothing that any other one would report.
-/

open Diagnostic

namespace Excess

/-- Whether one of several groups is about a rule in a file. -/
def Reports
    (groups : List Excess)
    (filename rule : Text) :
    Prop :=
  ∃ group ∈ groups, group.filename = filename ∧ group.rule = rule

instance (groups : List Excess) (filename rule : Text) :
    Decidable (Reports groups filename rule) :=
  inferInstanceAs
    (Decidable (∃ group ∈ groups, group.filename = filename ∧ group.rule = rule))

end Excess

namespace Baseline

/-- A group that is reported is about the pair that it is a group of. -/
theorem pair_of_excessOfGroup
    {baseline : Baseline}
    {group : Text × Text × List Diagnostic}
    {excess : Excess}
    (compared : baseline.excessOfGroup group = some excess) :
    (excess.filename, excess.rule) = (group.1, group.2.1) := by
  unfold excessOfGroup at compared
  dsimp only at compared
  split at compared
  · cases compared
    rfl
  · cases compared

/--
A reported group holds all that was seen of its pair, which is more than
tolerated.
-/
theorem mem_excess_iff
    {baseline : Baseline}
    {diagnostics : List Diagnostic}
    {group : Excess} :
    group ∈ baseline.excess diagnostics ↔
      group.diagnostics = allAbout diagnostics group.filename group.rule ∧
        group.diagnostics ≠ [] ∧
        group.actual = occurrences diagnostics group.filename group.rule ∧
        group.expected = baseline.count group.filename group.rule ∧
        group.expected < group.actual := by
  unfold excess
  rw [List.mem_filterMap]
  constructor
  · rintro ⟨⟨filename, rule, held⟩, member, compared⟩
    obtain ⟨rfl, something⟩ :=
      Observation.mem_items_ofDiagnostics.mp member
    unfold excessOfGroup at compared
    dsimp only at compared
    split at compared
    · next tooMany =>
        cases compared
        exact ⟨rfl, something, rfl, rfl, tooMany⟩
    · cases compared
  · rintro ⟨sameDiagnostics, something, sameActual, sameExpected, tooMany⟩
    refine ⟨(group.filename, group.rule, group.diagnostics), ?_, ?_⟩
    · exact Observation.mem_items_ofDiagnostics.mpr
        ⟨sameDiagnostics, something⟩
    · have sameLength : (group.diagnostics.length : Int) = group.actual := by
        rw [sameDiagnostics, sameActual]
        rfl
      simp only [excessOfGroup, ← sameExpected, sameLength, tooMany,
        ↓reduceIte]

/-- A pair is reported if and only if more was seen of it than is tolerated. -/
theorem reports_excess_iff
    {baseline : Baseline}
    (nonnegative : baseline.Nonnegative)
    (diagnostics : List Diagnostic)
    (filename rule : Text) :
    Excess.Reports (baseline.excess diagnostics) filename rule ↔
      baseline.count filename rule < occurrences diagnostics filename rule := by
  constructor
  · rintro ⟨group, member, rfl, rfl⟩
    obtain ⟨_, _, sameActual, sameExpected, tooMany⟩ :=
      mem_excess_iff.mp member
    rwa [sameExpected, sameActual] at tooMany
  · intro tooMany
    have bound := nonnegative.count filename rule
    have something : allAbout diagnostics filename rule ≠ [] := by
      intro nothing
      rw [occurrences, nothing, List.length_nil] at tooMany
      omega
    exact
      ⟨{
          rule := rule
          filename := filename
          expected := baseline.count filename rule
          actual := occurrences diagnostics filename rule
          diagnostics := allAbout diagnostics filename rule
        },
        mem_excess_iff.mpr ⟨rfl, something, rfl, rfl, tooMany⟩, rfl, rfl⟩

/-- Nothing is reported if and only if no more was seen of any pair than is tolerated. -/
theorem excess_eq_nil_iff
    {baseline : Baseline}
    (nonnegative : baseline.Nonnegative)
    (diagnostics : List Diagnostic) :
    baseline.excess diagnostics = [] ↔
      ∀ filename rule,
        (occurrences diagnostics filename rule : Int) ≤
          baseline.count filename rule := by
  constructor
  · intro nothing filename rule
    refine Int.not_lt.mp fun tooMany => ?_
    obtain ⟨group, member, _⟩ :=
      (reports_excess_iff nonnegative diagnostics filename rule).mpr tooMany
    rw [nothing] at member
    cases member
  · intro enough
    refine List.eq_nil_iff_forall_not_mem.mpr fun group member => ?_
    have tooMany :=
      (reports_excess_iff nonnegative diagnostics _ _).mp
        ⟨group, member, rfl, rfl⟩
    exact Int.not_lt.mpr (enough group.filename group.rule) tooMany

/-- Tightening with an observation does not change what is reported of it. -/
theorem excess_tighten_self
    {baseline : Baseline}
    (nonnegative : baseline.Nonnegative)
    (diagnostics : List Diagnostic) :
    (baseline.tighten diagnostics).excess diagnostics =
      baseline.excess diagnostics := by
  refine List.filterMap_congr ?_
  intro group member
  have seen :
      group.2.2.length = occurrences diagnostics group.1 group.2.1 :=
    congrArg List.length
      (Observation.mem_items_ofDiagnostics.mp member).1
  have left := count_tighten nonnegative diagnostics group.1 group.2.1
  unfold excessOfGroup
  dsimp only
  rw [left, seen]
  by_cases tooMany :
      baseline.count group.1 group.2.1 <
        (occurrences diagnostics group.1 group.2.1 : Int)
  · rw [Int.min_eq_left (Int.le_of_lt tooMany)]
  · rw [Int.min_eq_right (Int.not_lt.mp tooMany), if_neg (Int.lt_irrefl _),
      if_neg tooMany]

/--
After tightening with one observation a pair of any observation is reported if
and only if more was seen of it than the smaller one of what was tolerated and
what the first observation saw.  So nothing that was reported before is hidden,
and the report of the first observation stays the same.
-/
theorem tighten_hides_nothing
    (baseline : Baseline)
    (nonnegative : baseline.Nonnegative)
    (diagnostics others : List Diagnostic) :
    (∀ filename rule,
        Excess.Reports ((baseline.tighten diagnostics).excess others)
            filename rule ↔
          min (baseline.count filename rule)
              (occurrences diagnostics filename rule) <
            (occurrences others filename rule : Int)) ∧
      (∀ filename rule,
        Excess.Reports (baseline.excess others) filename rule →
        Excess.Reports ((baseline.tighten diagnostics).excess others)
          filename rule) ∧
      (baseline.tighten diagnostics).excess diagnostics =
        baseline.excess diagnostics := by
  have reported
      (filename rule : Text) :
      Excess.Reports ((baseline.tighten diagnostics).excess others)
          filename rule ↔
        min (baseline.count filename rule)
            (occurrences diagnostics filename rule) <
          (occurrences others filename rule : Int) := by
    rw [reports_excess_iff (nonnegative.tighten diagnostics),
      count_tighten nonnegative]
  refine ⟨reported, ?_, excess_tighten_self nonnegative diagnostics⟩
  intro filename rule reportedBefore
  have tooMany :=
    (reports_excess_iff nonnegative others filename rule).mp reportedBefore
  exact (reported filename rule).mpr
    (Int.lt_of_le_of_lt (Int.min_le_left _ _) tooMany)

/--
A violation that comes back after it was fixed is reported, though it was
tolerated once.
-/
theorem tighten_reports_return :
    let baseline : Baseline :=
      (Ledger.empty.set [0x61] [0x72] 1).set [0x61] [0x73] 3
    let fixed : Diagnostic := { filename := [0x61], rule := [0x72] }
    let other : Diagnostic := { filename := [0x61], rule := [0x73] }
    baseline.Nonnegative ∧
      ¬Excess.Reports (baseline.excess [fixed]) [0x61] [0x72] ∧
      Excess.Reports ((baseline.tighten [other]).excess [fixed])
        [0x61] [0x72] ∧
      (baseline.tighten [other]).excess [other] =
        baseline.excess [other] := by
  intro baseline fixed other
  have nonnegative : baseline.Nonnegative := by decide
  obtain ⟨reported, _, same⟩ :=
    tighten_hides_nothing baseline nonnegative [other] [fixed]
  exact ⟨nonnegative, by decide, (reported _ _).mpr (by decide), same⟩

end Baseline

end Tolerance
