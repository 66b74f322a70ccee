import Tolerance.Proofs.FirstAppearance
import Tolerance.Proofs.Restriction

namespace Tolerance

/-!
# The report is exact

Each pair of file and rule of which more was seen than is tolerated is reported
once, with both counts and with all diagnostics about it, and no other pair is.
The files come in the order in which they were first seen, and the rules of a
file in the order in which they were first seen there.
-/

open Diagnostic

namespace FirstAppearance

variable {α : Type} [BEq α] [LawfulBEq α]

/-- Items that are listed once stand in the order in which they first appear. -/
theorem eraseDups_pairwise_idxOf (items : List α) :
    items.eraseDups.Pairwise
      fun left right => items.idxOf left < items.idxOf right := by
  induction items using List.reverseRecOn with
  | nil =>
      exact List.Pairwise.nil
  | append_singleton items item inductionHypothesis =>
      -- What comes last does not move the first places of the items before it.
      have kept :
          items.eraseDups.Pairwise fun left right =>
            (items ++ [item]).idxOf left < (items ++ [item]).idxOf right := by
        apply inductionHypothesis.imp_of_mem
        intro left right leftMember rightMember before
        rw [List.mem_eraseDups] at leftMember rightMember
        rwa [List.idxOf_append_of_mem leftMember,
          List.idxOf_append_of_mem rightMember]
      rw [eraseDups_concat]
      split
      · exact kept
      · next new =>
          apply List.pairwise_append.mpr
          refine ⟨kept, List.pairwise_singleton _ _, ?_⟩
          intro earlier member last isLast
          rw [List.mem_eraseDups] at member
          rw [List.mem_singleton.mp isLast, List.idxOf_append_of_mem member,
            List.idxOf_append_of_notMem new]
          exact Nat.lt_add_right _ (List.idxOf_lt_length_of_mem member)

end FirstAppearance

open FirstAppearance

namespace Diagnostic

/--
One pair of file and rule was seen before another: its file was, or it is the
same file and the rule was seen there first.
-/
def SeenBefore
    (diagnostics : List Diagnostic)
    (left right : Text × Text) :
    Prop :=
  let files := diagnostics.map Diagnostic.filename
  let rules := (allIn diagnostics left.1).map Diagnostic.rule
  files.idxOf left.1 < files.idxOf right.1 ∨
    left.1 = right.1 ∧ rules.idxOf left.2 < rules.idxOf right.2

/-- The pairs that were seen are listed in the order in which they were. -/
theorem pairsSeen_pairwise (diagnostics : List Diagnostic) :
    (pairsSeen diagnostics).Pairwise (SeenBefore diagnostics) := by
  apply List.pairwise_flatMap.mpr
  constructor
  · intro filename _
    apply List.pairwise_map.mpr
    apply (eraseDups_pairwise_idxOf _).imp
    intro left right before
    exact Or.inr ⟨rfl, before⟩
  · apply (eraseDups_pairwise_idxOf _).imp
    intro leftFile rightFile before left leftMember right rightMember
    obtain ⟨leftRule, _, rfl⟩ := List.mem_map.mp leftMember
    obtain ⟨rightRule, _, rfl⟩ := List.mem_map.mp rightMember
    exact Or.inl before

/-- Diagnostics that are the same about each pair are the same but for their order. -/
theorem perm_of_allAbout_eq
    {left right : List Diagnostic}
    (same :
      ∀ filename rule,
        allAbout left filename rule = allAbout right filename rule) :
    left.Perm right := by
  apply List.perm_iff_count.mpr
  intro diagnostic
  have counted
      (diagnostics : List Diagnostic) :
      (allAbout diagnostics diagnostic.filename diagnostic.rule).count
          diagnostic =
        diagnostics.count diagnostic :=
    List.count_filter (by simp [isAbout])
  rw [← counted, same, counted]

/-- The diagnostics about one pair are not about another one. -/
theorem allAbout_allAbout
    (diagnostics : List Diagnostic)
    (filename rule otherFile otherRule : Text) :
    allAbout (allAbout diagnostics filename rule) otherFile otherRule =
      if filename = otherFile ∧ rule = otherRule then
        allAbout diagnostics filename rule
      else
        [] := by
  have kept :=
    allAbout_filter
      (fun name key => decide (name = filename ∧ key = rule))
      diagnostics otherFile otherRule
  refine kept.trans ?_
  by_cases same : filename = otherFile ∧ rule = otherRule
  · obtain ⟨rfl, rfl⟩ := same
    simp
  · have notKept : ¬(otherFile = filename ∧ otherRule = rule) := fun both =>
      same ⟨both.1.symm, both.2.symm⟩
    simp only [same, notKept, decide_false, Bool.false_eq_true, ↓reduceIte]

end Diagnostic

namespace Baseline

/-- Pairs are reported in the order in which they were first seen. -/
theorem excess_pairwise
    (baseline : Baseline)
    (diagnostics : List Diagnostic) :
    (baseline.excess diagnostics).Pairwise fun left right =>
      SeenBefore diagnostics (left.filename, left.rule)
        (right.filename, right.rule) := by
  unfold excess
  rw [Observation.items_ofDiagnostics, List.filterMap_map]
  apply List.pairwise_filterMap.mpr
  apply (pairsSeen_pairwise diagnostics).imp
  intro left right before first compared second comparedToo
  rwa [pair_of_excessOfGroup compared, pair_of_excessOfGroup comparedToo]

/-- A pair is reported once if more was seen of it than is tolerated, and else not at all. -/
theorem excess_filter_pair
    {baseline : Baseline}
    (nonnegative : baseline.Nonnegative)
    (diagnostics : List Diagnostic)
    (filename rule : Text) :
    (baseline.excess diagnostics).filter
        (fun group => group.filename = filename ∧ group.rule = rule) =
      if baseline.count filename rule < occurrences diagnostics filename rule then
        [{
          rule := rule
          filename := filename
          expected := baseline.count filename rule
          actual := occurrences diagnostics filename rule
          diagnostics := allAbout diagnostics filename rule
        }]
      else
        [] := by
  have reported := reports_excess_iff nonnegative diagnostics filename rule
  split
  · next tooMany =>
      obtain ⟨group, member, rfl, rfl⟩ := reported.mpr tooMany
      have only :=
        OrderedMap.filter_eq_singleton
          (excess_pairs_nodup baseline diagnostics) member
      obtain ⟨held, _, actual, expected, _⟩ := mem_excess_iff.mp member
      rw [← held, ← actual, ← expected, ← only]
      apply List.filter_congr
      intro other _
      rw [Bool.eq_iff_iff, decide_eq_true_eq, beq_iff_eq, Prod.mk.injEq]
  · next notTooMany =>
      apply List.filter_eq_nil_iff.mpr
      intro group member aboutPair
      exact
        notTooMany
          (reported.mp ⟨group, member, of_decide_eq_true aboutPair⟩)

/-- The reported diagnostics about a pair are all of them or none. -/
theorem allAbout_flatMap_excess
    {baseline : Baseline}
    (nonnegative : baseline.Nonnegative)
    (diagnostics : List Diagnostic)
    (filename rule : Text) :
    allAbout ((baseline.excess diagnostics).flatMap Excess.diagnostics)
        filename rule =
      if baseline.count filename rule < occurrences diagnostics filename rule then
        allAbout diagnostics filename rule
      else
        [] := by
  -- A group holds nothing about another pair, so only the groups of this one matter.
  have ofGroup :
      ∀ group ∈ baseline.excess diagnostics,
        allAbout group.diagnostics filename rule =
          if group.filename = filename ∧ group.rule = rule then
            group.diagnostics
          else
            [] := by
    intro group member
    rw [diagnostics_of_mem_excess member, allAbout_allAbout]
  have spread :
      allAbout ((baseline.excess diagnostics).flatMap Excess.diagnostics)
          filename rule =
        ((baseline.excess diagnostics).filter fun group =>
          group.filename = filename ∧ group.rule = rule).flatMap
            Excess.diagnostics := by
    rw [allAbout, List.filter_flatMap, Restriction.flatMap_filter]
    apply List.flatMap_congr
    intro group member
    simpa [allAbout] using ofGroup group member
  rw [spread, excess_filter_pair nonnegative]
  split <;> simp

/-- No diagnostic of a reported pair is lost, listed twice or put in two groups. -/
theorem flatMap_excess_perm
    {baseline : Baseline}
    (nonnegative : baseline.Nonnegative)
    (diagnostics : List Diagnostic) :
    ((baseline.excess diagnostics).flatMap Excess.diagnostics).Perm
      (diagnostics.filter fun diagnostic =>
        baseline.count diagnostic.filename diagnostic.rule <
          occurrences diagnostics diagnostic.filename diagnostic.rule) := by
  apply perm_of_allAbout_eq
  intro filename rule
  rw [allAbout_flatMap_excess nonnegative]
  simpa using
    (allAbout_filter
      (fun name key =>
        decide (baseline.count name key < occurrences diagnostics name key))
      diagnostics filename rule).symm

/--
Exactly those pairs of file and rule are reported of which more was seen than is
tolerated: each of them once, with the tolerated count, the number of diagnostics
about it and all these diagnostics in their order.  The report lists file by file
in the order in which the files were first seen, and the rules of a file in the
order in which they were first seen there.  It holds every diagnostic about a
reported pair as often as it was seen, and no other one.
-/
theorem excess_is_exact
    (baseline : Baseline)
    (nonnegative : baseline.Nonnegative)
    (diagnostics : List Diagnostic) :
    (∀ filename rule,
        (baseline.excess diagnostics).filter
            (fun group => group.filename = filename ∧ group.rule = rule) =
          if baseline.count filename rule <
              occurrences diagnostics filename rule then
            [{
              rule := rule
              filename := filename
              expected := baseline.count filename rule
              actual := occurrences diagnostics filename rule
              diagnostics := allAbout diagnostics filename rule
            }]
          else
            []) ∧
      (baseline.excess diagnostics).Pairwise
        (fun left right =>
          SeenBefore diagnostics (left.filename, left.rule)
            (right.filename, right.rule)) ∧
      ((baseline.excess diagnostics).flatMap Excess.diagnostics).Perm
        (diagnostics.filter fun diagnostic =>
          baseline.count diagnostic.filename diagnostic.rule <
            occurrences diagnostics diagnostic.filename diagnostic.rule) :=
  ⟨excess_filter_pair nonnegative diagnostics,
    excess_pairwise baseline diagnostics,
    flatMap_excess_perm nonnegative diagnostics⟩

/--
Of two files whose violations are interleaved the one that was seen first is
reported first, though its name is the greater one and its rule is tolerated in
part.
-/
theorem interleaved_files_are_reported_in_order :
    let baseline : Baseline := Ledger.empty.set [0x62] [0x72] 1
    let first : Diagnostic := { filename := [0x62], rule := [0x72], line := some 1 }
    let between : Diagnostic := { filename := [0x61], rule := [0x73] }
    let last : Diagnostic := { filename := [0x62], rule := [0x72], line := some 2 }
    let diagnostics := [first, between, last]
    baseline.Nonnegative ∧
      (baseline.excess diagnostics).filter
          (fun group => group.filename = [0x62] ∧ group.rule = [0x72]) =
        [{
          rule := [0x72]
          filename := [0x62]
          expected := 1
          actual := 2
          diagnostics := [first, last]
        }] ∧
      (baseline.excess diagnostics).map Excess.filename = [[0x62], [0x61]] ∧
      ((baseline.excess diagnostics).flatMap Excess.diagnostics).Perm
        diagnostics := by
  intro baseline first between last diagnostics
  have nonnegative : baseline.Nonnegative := by decide
  obtain ⟨everyPair, _, nothingLost⟩ :=
    excess_is_exact baseline nonnegative diagnostics
  exact ⟨nonnegative, everyPair _ _, by decide, nothingLost⟩

end Baseline

end Tolerance
