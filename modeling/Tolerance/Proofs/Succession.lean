import Mathlib.Data.Set.Basic
import Tolerance.Proofs.Occurrences
import Tolerance.Proofs.Restriction

namespace Tolerance

/-!
# Several observations one after the other

Of two observations that are absorbed one after the other, the later one decides
about every file that it saw, and the earlier one about the other files that it
saw.  So both can be absorbed at once, and observations of different files may
come in any order.
-/

open Diagnostic

namespace Diagnostic

/-- The diagnostics about the files that a later observation did not see. -/
def besides (earlier later : List Diagnostic) : List Diagnostic :=
  restrict {filename | filename ∉ later.map Diagnostic.filename} earlier

/-- What is known after two observations: the later one counts for each file that it saw. -/
def supersede (earlier later : List Diagnostic) : List Diagnostic :=
  besides earlier later ++ later

/-- No file was seen by both of two observations. -/
def Apart (left right : List Diagnostic) : Prop :=
  ∀ filename ∈ left.map Diagnostic.filename,
    filename ∉ right.map Diagnostic.filename

instance (left right : List Diagnostic) : Decidable (Apart left right) :=
  inferInstanceAs
    (Decidable
      (∀ filename ∈ left.map Diagnostic.filename,
        filename ∉ right.map Diagnostic.filename))

theorem Apart.symm
    {left right : List Diagnostic}
    (apart : Apart left right) :
    Apart right left :=
  fun filename inRight inLeft => apart filename inLeft inRight

/-- Whatever is apart from two observations is apart from both together. -/
theorem Apart.append
    {left middle right : List Diagnostic}
    (apart : Apart left right)
    (apartToo : Apart middle right) :
    Apart (left ++ middle) right := by
  intro filename seen
  rw [List.map_append] at seen
  rcases List.mem_append.mp seen with inLeft | inMiddle
  · exact apart filename inLeft
  · exact apartToo filename inMiddle

/-- An observation of other files replaces nothing. -/
theorem Apart.supersede_eq
    {earlier later : List Diagnostic}
    (apart : Apart earlier later) :
    supersede earlier later = earlier ++ later := by
  have nothingReplaced : besides earlier later = earlier := by
    apply List.filter_eq_self.mpr
    intro diagnostic member
    exact
      decide_eq_true
        (apart diagnostic.filename (List.mem_map_of_mem member))
  rw [supersede, nothingReplaced]

/-- Observations of different files replace nothing of each other. -/
theorem foldl_supersede_of_apart
    {first : List Diagnostic}
    {rest : List (List Diagnostic)}
    (apart : (first :: rest).Pairwise Apart) :
    rest.foldl supersede first = (first :: rest).flatten := by
  induction rest generalizing first with
  | nil =>
      simp
  | cons next later inductionHypothesis =>
      obtain ⟨firstApart, restApart⟩ := List.pairwise_cons.mp apart
      obtain ⟨nextApart, laterApart⟩ := List.pairwise_cons.mp restApart
      have joined : supersede first next = first ++ next :=
        (firstApart next List.mem_cons_self).supersede_eq
      have joinedApart : ((first ++ next) :: later).Pairwise Apart := by
        refine List.pairwise_cons.mpr ⟨?_, laterApart⟩
        intro other member
        exact
          (firstApart other (List.mem_cons_of_mem _ member)).append
            (nextApart other member)
      rw [List.foldl_cons, joined, inductionHypothesis joinedApart]
      simp

theorem occurrences_append
    (left right : List Diagnostic)
    (filename rule : Text) :
    occurrences (left ++ right) filename rule =
      occurrences left filename rule + occurrences right filename rule := by
  simp [occurrences, allAbout]

theorem occurrences_of_not_mem
    {diagnostics : List Diagnostic}
    {filename : Text}
    (notSeen : filename ∉ diagnostics.map Diagnostic.filename)
    (rule : Text) :
    occurrences diagnostics filename rule = 0 := by
  apply Decidable.byContradiction
  intro occurred
  exact notSeen (mem_map_filename_iff.mpr ⟨rule, occurred⟩)

/-- Every file that one of two observations saw is known after them. -/
theorem mem_map_filename_supersede
    {earlier later : List Diagnostic}
    {filename : Text} :
    filename ∈ (supersede earlier later).map Diagnostic.filename ↔
      filename ∈ later.map Diagnostic.filename ∨
        filename ∈ earlier.map Diagnostic.filename := by
  rw [supersede, List.map_append, List.mem_append, besides,
    mem_map_filename_restrict, or_comm]
  exact or_congr_right' fun notLater => and_iff_left notLater

/-- What is known of a file is what the later observation saw of it, if it saw the file. -/
theorem occurrences_supersede
    (earlier later : List Diagnostic)
    (filename rule : Text) :
    occurrences (supersede earlier later) filename rule =
      if filename ∈ later.map Diagnostic.filename then
        occurrences later filename rule
      else
        occurrences earlier filename rule := by
  rw [supersede, occurrences_append, besides, occurrences_restrict]
  simp only [Set.mem_ofPred_eq]
  by_cases seenLater : filename ∈ later.map Diagnostic.filename
  · rw [if_pos seenLater, if_neg (not_not_intro seenLater), Nat.zero_add]
  · rw [if_neg seenLater, if_pos seenLater,
      occurrences_of_not_mem seenLater, Nat.add_zero]

end Diagnostic

namespace Baseline

/-- The later observation decides about every file that it saw. -/
theorem absorb_supersede
    (baseline : Baseline)
    (earlier later : List Diagnostic) :
    (baseline.absorb earlier).absorb later =
      baseline.absorb (supersede earlier later) := by
  apply Ledger.eq_of_canonical (canonical_absorb _ _) (canonical_absorb _ _)
  intro filename rule
  simp only [get?_absorb, get?_observed, mem_map_filename_supersede,
    occurrences_supersede]
  by_cases seenLater : filename ∈ later.map Diagnostic.filename
  · simp only [seenLater, true_or, ↓reduceIte]
  · simp only [seenLater, false_or, ↓reduceIte]

/-- Absorb what several runs saw, one run after the other. -/
def absorbRuns
    (baseline : Baseline)
    (runs : List (List Diagnostic)) :
    Baseline :=
  runs.foldl absorb baseline

/-- Several runs are absorbed like one that knows of each file what the last of them saw. -/
theorem absorbRuns_absorb
    (baseline : Baseline)
    (first : List Diagnostic)
    (runs : List (List Diagnostic)) :
    (baseline.absorb first).absorbRuns runs =
      baseline.absorb (runs.foldl supersede first) := by
  unfold absorbRuns
  induction runs generalizing first with
  | nil =>
      rfl
  | cons run runs inductionHypothesis =>
      rw [List.foldl_cons, List.foldl_cons, absorb_supersede,
        inductionHypothesis]

/-- Runs that saw different files are absorbed like all that they saw together. -/
theorem absorbRuns_of_apart
    (baseline : Baseline)
    {runs : List (List Diagnostic)}
    (something : runs ≠ [])
    (apart : runs.Pairwise Apart) :
    baseline.absorbRuns runs = baseline.absorb runs.flatten := by
  cases runs with
  | nil =>
      exact (something rfl).elim
  | cons first rest =>
      rw [← foldl_supersede_of_apart apart, ← absorbRuns_absorb]
      rfl

/--
To absorb two observations one after the other is to absorb the later one
together with what the earlier one saw in other files.  So runs that saw
different files, at least one of them, leave the same baseline in whatever order
they are absorbed, and it is the one that absorbs all that they saw at once.
-/
theorem later_observation_wins_per_file
    (baseline : Baseline) :
    (∀ earlier later : List Diagnostic,
        (baseline.absorb earlier).absorb later =
          baseline.absorb (besides earlier later ++ later)) ∧
      ∀ shards : List (List Diagnostic),
        shards ≠ [] →
        shards.Pairwise Apart →
        ∀ others : List (List Diagnostic),
          others.Perm shards →
          baseline.absorbRuns others = baseline.absorb shards.flatten := by
  refine ⟨baseline.absorb_supersede, ?_⟩
  intro shards something apart others reordered
  have othersSomething : others ≠ [] := fun nothing =>
    something (List.nil_perm.mp (nothing ▸ reordered))
  have othersApart : others.Pairwise Apart :=
    (reordered.pairwise_iff Apart.symm).mpr apart
  calc
    baseline.absorbRuns others
        = baseline.absorb others.flatten :=
      baseline.absorbRuns_of_apart othersSomething othersApart
    _ = baseline.absorb shards.flatten :=
      baseline.absorb_congr (sameOccurrences_of_perm reordered.flatten)

/--
Two shards leave the same baseline either way round, and a third run replaces one
of them.
-/
theorem shards_are_absorbed_either_way :
    let baseline : Baseline := (Ledger.empty.set [0x61] [0x72] 3).set [0x63] [0x72] 1
    let first : List Diagnostic := [{ filename := [0x61], rule := [0x73] }]
    let second : List Diagnostic := [{ filename := [0x62], rule := [0x72] }]
    let again : List Diagnostic := [{ filename := [0x61], rule := [0x72] }]
    [first, second] ≠ [] ∧
      [first, second].Pairwise Apart ∧
      [second, first].Perm [first, second] ∧
      baseline.absorbRuns [second, first] = baseline.absorb (first ++ second) ∧
      (baseline.absorb (first ++ second)).absorb again =
        baseline.absorb (second ++ again) := by
  intro baseline first second again
  have something : [first, second] ≠ [] := List.cons_ne_nil _ _
  have apart : [first, second].Pairwise Apart := by decide
  have reordered : [second, first].Perm [first, second] :=
    List.Perm.swap first second []
  obtain ⟨composed, anyOrder⟩ := later_observation_wins_per_file baseline
  exact
    ⟨something, apart, reordered,
      anyOrder _ something apart _ reordered, composed (first ++ second) again⟩

end Baseline

end Tolerance
