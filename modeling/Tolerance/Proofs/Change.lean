import Tolerance.Baseline.Change
import Tolerance.Proofs.Sorting

namespace Tolerance.Baseline

/-!
# The order of changes

Pairs of file and rule are ordered by their files, and pairs of one file by
their rules.  This order leaves no two pairs undecided, so that the changes
between two baselines can be listed in one way only.
-/

/--
One pair may stand before another when its file stands before the other one, or
when the file is the same and its rule is not behind the other one.
-/
theorem pairPrecedes_iff
    {left right : Text × Text} :
    pairPrecedes left right ↔
      left.1 < right.1 ∨ left.1 = right.1 ∧ ¬right.2 < left.2 := by
  simp [pairPrecedes]

/-- Pairs are in ascending order in one way only. -/
theorem pairPrecedes_uniqueOrder : Sorting.UniqueOrder pairPrecedes where
  trans {first second third} earlier later := by
    rw [pairPrecedes_iff] at *
    rcases earlier with before | ⟨sameFile, rules⟩
    · rcases later with before' | ⟨sameFile', _⟩
      · exact Or.inl (Text.lt_trans before before')
      · exact Or.inl (sameFile' ▸ before)
    · rcases later with before' | ⟨sameFile', rules'⟩
      · exact Or.inl (sameFile ▸ before')
      · exact
          Or.inr ⟨sameFile.trans sameFile', List.le_trans rules rules'⟩
  total {left right} notBefore := by
    rw [pairPrecedes_iff] at *
    obtain ⟨notSmaller, notBoth⟩ := not_or.mp notBefore
    by_cases sameFile : left.1 = right.1
    · have smaller : right.2 < left.2 :=
        Decidable.not_not.mp fun rules => notBoth ⟨sameFile, rules⟩
      exact Or.inr ⟨sameFile.symm, List.lt_asymm smaller⟩
    · exact Or.inl (Text.lt_of_not_lt_of_ne notSmaller (Ne.symm sameFile))
  antisymm {left right} before after := by
    rw [pairPrecedes_iff] at *
    rcases before with smaller | ⟨sameFile, rules⟩
    · rcases after with smaller' | ⟨sameFile, _⟩
      · exact (List.lt_asymm smaller smaller').elim
      · exact (Text.lt_irrefl _ (sameFile ▸ smaller)).elim
    · rcases after with smaller | ⟨_, rules'⟩
      · exact (Text.lt_irrefl _ (sameFile ▸ smaller)).elim
      · exact Prod.ext sameFile (Text.eq_of_not_lt rules' rules)

end Tolerance.Baseline
