import Tolerance.Baseline
import Tolerance.Proofs.Json.Escape
import Tolerance.Proofs.Ledger

namespace Tolerance

/-!
# Counts and names of a baseline

A stored baseline has no count below zero, and no name that its JSON form would
change.
-/

namespace Ledger

variable {Value : Type}

/-- No name of a file or a rule has a high surrogate right before a low one. -/
def SurrogatesApart (ledger : Ledger Value) : Prop :=
  ∀ item ∈ ledger.items,
    item.1.SurrogatesApart ∧ item.2.1.SurrogatesApart

instance (ledger : Ledger Value) : Decidable ledger.SurrogatesApart :=
  inferInstanceAs
    (Decidable
      (∀ item ∈ ledger.items,
        item.1.SurrogatesApart ∧ item.2.1.SurrogatesApart))

/-- The names of every rule with a value hold no surrogates that would be joined. -/
theorem surrogatesApart_iff
    {ledger : Ledger Value} :
    ledger.SurrogatesApart ↔
      ∀ filename rule value,
        ledger.get? filename rule = some value →
        filename.SurrogatesApart ∧ rule.SurrogatesApart := by
  constructor
  · intro apart filename rule value found
    exact apart _ (mem_items_iff.mpr found)
  · rintro listed ⟨filename, rule, value⟩ member
    exact listed filename rule value (mem_items_iff.mp member)

end Ledger

namespace Baseline

/-- No count is below zero. -/
def Nonnegative (baseline : Baseline) : Prop :=
  ∀ item ∈ baseline.items, 0 ≤ item.2.2

instance (baseline : Baseline) : Decidable baseline.Nonnegative :=
  inferInstanceAs (Decidable (∀ item ∈ baseline.items, 0 ≤ item.2.2))

/-- No value of any rule is below zero. -/
theorem nonnegative_iff
    {baseline : Baseline} :
    baseline.Nonnegative ↔
      ∀ filename rule tolerated,
        baseline.get? filename rule = some tolerated → 0 ≤ tolerated := by
  constructor
  · intro nonnegative filename rule tolerated found
    exact nonnegative _ (Ledger.mem_items_iff.mpr found)
  · rintro listed ⟨filename, rule, tolerated⟩ member
    exact listed filename rule tolerated (Ledger.mem_items_iff.mp member)

/-- A listed count of a baseline without counts below zero is none itself. -/
theorem Nonnegative.get?
    {baseline : Baseline}
    (nonnegative : baseline.Nonnegative)
    {filename rule : Text}
    {tolerated : Int}
    (found : baseline.get? filename rule = some tolerated) :
    0 ≤ tolerated :=
  nonnegative_iff.mp nonnegative filename rule tolerated found

/-- No tolerated count is below zero, whether it is listed or not. -/
theorem Nonnegative.count
    {baseline : Baseline}
    (nonnegative : baseline.Nonnegative)
    (filename rule : Text) :
    0 ≤ baseline.count filename rule := by
  unfold Baseline.count
  cases found : baseline.get? filename rule with
  | none =>
      exact Int.le_refl 0
  | some tolerated =>
      exact nonnegative.get? found

/-- The listed pairs are those with a count. -/
theorem mem_pairs_iff
    {baseline : Baseline}
    {filename rule : Text} :
    (filename, rule) ∈ baseline.pairs ↔
      ∃ tolerated, baseline.get? filename rule = some tolerated := by
  constructor
  · intro member
    obtain ⟨⟨_, _, tolerated⟩, inItems, same⟩ := List.mem_map.mp member
    cases same
    exact ⟨tolerated, Ledger.mem_items_iff.mp inItems⟩
  · rintro ⟨tolerated, found⟩
    exact List.mem_map.mpr
      ⟨(filename, rule, tolerated), Ledger.mem_items_iff.mpr found, rfl⟩

end Baseline

end Tolerance
