import Tolerance.Baseline.Revision
import Tolerance.Proofs.Baseline
import Tolerance.Proofs.Change
import Tolerance.Proofs.Revision

namespace Tolerance

/-!
# Changes as a patch

The changes between two baselines name every pair whose entry differs, once and
in ascending order, with what either baseline lists for it.  So they can be
applied to the first baseline to get what the second one lists, and the same
changes backwards lead from the second one to the first.
-/

namespace Change

/-- A change stands before another one: its file does, or its rule in the same file. -/
def StandsBefore (left right : Change) : Prop :=
  left.filename < right.filename ∨
    left.filename = right.filename ∧ left.rule < right.rule

/-- The same change backwards. -/
def reverse (change : Change) : Change :=
  { change with before := change.after, after := change.before }

/-- What each kind of change says of the entries before and after it. -/
inductive Kind.Fits : Kind → Option Int → Option Int → Prop where
  | added (after : Int) : Fits .added none (some after)
  | removed (before : Int) : Fits .removed (some before) none
  | lowered
      {before after : Int}
      (fewer : after < before) :
      Fits .lowered (some before) (some after)
  | raised
      {before after : Int}
      (more : before < after) :
      Fits .raised (some before) (some after)

/-- No two kinds fit the same entries. -/
theorem Kind.Fits.unique
    {first second : Kind}
    {before after : Option Int}
    (fits : first.Fits before after)
    (fitsToo : second.Fits before after) :
    first = second := by
  cases fits with
  | added =>
      cases fitsToo
      rfl
  | removed =>
      cases fitsToo
      rfl
  | lowered fewer =>
      cases fitsToo with
      | lowered => rfl
      | raised more => exact (Int.lt_asymm fewer more).elim
  | raised more =>
      cases fitsToo with
      | lowered fewer => exact (Int.lt_asymm fewer more).elim
      | raised => rfl

/-- The kind of a change fits its entries if they differ. -/
theorem kind_fits
    {change : Change}
    (differs : change.before ≠ change.after) :
    change.kind.Fits change.before change.after := by
  obtain ⟨filename, rule, before, after⟩ := change
  dsimp only at differs ⊢
  cases before with
  | none =>
      cases after with
      | none => exact (differs rfl).elim
      | some after => exact .added after
  | some before =>
      cases after with
      | none => exact .removed before
      | some after =>
          unfold kind
          dsimp only
          split
          · next fewer => exact .lowered fewer
          · next notFewer =>
              refine .raised ?_
              have different : before ≠ after := fun same =>
                differs (congrArg some same)
              omega

/-- A change is of the one kind that fits its entries. -/
theorem kind_eq_iff
    {change : Change}
    (differs : change.before ≠ change.after)
    {kind : Kind} :
    change.kind = kind ↔ kind.Fits change.before change.after := by
  constructor
  · rintro rfl
    exact kind_fits differs
  · exact (kind_fits differs).unique

end Change

namespace Baseline

/-! ## Which changes are listed -/

/-- The pairs of either baseline are those that one of them lists. -/
theorem mem_pairsOfEither_iff
    {before after : Baseline}
    {pair : Text × Text} :
    pair ∈ pairsOfEither before after ↔
      pair ∈ before.pairs ∨ pair ∈ after.pairs := by
  rw [pairsOfEither, Sorting.mem_sortOnce, List.mem_append]

/-- A pair whose entry differs is listed by one of the baselines. -/
theorem mem_pairsOfEither_of_ne
    {before after : Baseline}
    {filename rule : Text}
    (differs : before.get? filename rule ≠ after.get? filename rule) :
    (filename, rule) ∈ pairsOfEither before after := by
  simp only [mem_pairsOfEither_iff, mem_pairs_iff,
    ← Option.isSome_iff_exists]
  cases inBefore : before.get? filename rule with
  | some => exact Or.inl rfl
  | none =>
      cases inAfter : after.get? filename rule with
      | some => exact Or.inr rfl
      | none => exact (differs (inBefore.trans inAfter.symm)).elim

theorem changeAt?_eq_some_iff
    {before after : Baseline}
    {pair : Text × Text}
    {change : Change} :
    changeAt? before after pair = some change ↔
      (change.filename, change.rule) = pair ∧
        change.before = before.get? pair.1 pair.2 ∧
        change.after = after.get? pair.1 pair.2 ∧
        change.before ≠ change.after := by
  obtain ⟨filename, rule, old, new⟩ := change
  unfold changeAt?
  dsimp only
  split
  · next same =>
      constructor
      · intro listed
        cases listed
      · rintro ⟨_, rfl, rfl, differs⟩
        exact (differs same).elim
  · next differs =>
      constructor
      · intro listed
        cases listed
        exact ⟨rfl, rfl, rfl, differs⟩
      · rintro ⟨rfl, rfl, rfl, _⟩
        rfl

/-- A change is listed if it says what both baselines list for its pair, and this differs. -/
theorem mem_changes_iff
    {before after : Baseline}
    {change : Change} :
    change ∈ before.changes after ↔
      change.before = before.get? change.filename change.rule ∧
        change.after = after.get? change.filename change.rule ∧
        change.before ≠ change.after := by
  simp only [changes, List.mem_filterMap, changeAt?_eq_some_iff]
  constructor
  · rintro ⟨_, _, rfl, facts⟩
    exact facts
  · rintro ⟨old, new, differs⟩
    refine ⟨_, mem_pairsOfEither_of_ne ?_, rfl, old, new, differs⟩
    rwa [← old, ← new]

/-- Changes are listed in strictly ascending order of their pairs. -/
theorem changes_pairwise (before after : Baseline) :
    (before.changes after).Pairwise Change.StandsBefore := by
  apply List.pairwise_filterMap.mpr
  apply (Sorting.strictlyAscending_sortOnce pairPrecedes_uniqueOrder _).imp
  rintro left right ⟨inOrder, different⟩ first firstListed second secondListed
  obtain ⟨rfl, _⟩ := changeAt?_eq_some_iff.mp firstListed
  obtain ⟨rfl, _⟩ := changeAt?_eq_some_iff.mp secondListed
  rcases pairPrecedes_iff.mp inOrder with before | ⟨sameFile, rules⟩
  · exact Or.inl before
  · have differentRules : first.rule ≠ second.rule := fun sameRule =>
      different (Prod.ext sameFile sameRule)
    exact Or.inr ⟨sameFile, Text.lt_of_not_lt_of_ne rules differentRules⟩

/-- Nothing changes if and only if both baselines list the same entries. -/
theorem changes_eq_nil_iff
    {before after : Baseline} :
    before.changes after = [] ↔ before.items.Perm after.items := by
  rw [List.eq_nil_iff_forall_not_mem, Ledger.items_perm_iff]
  constructor
  · intro nothing filename rule
    refine Decidable.not_not.mp fun differs => ?_
    exact nothing ⟨filename, rule, _, _⟩ (mem_changes_iff.mpr ⟨rfl, rfl, differs⟩)
  · intro same change listed
    obtain ⟨old, new, differs⟩ := mem_changes_iff.mp listed
    exact differs (old.trans ((same _ _).trans new.symm))

/-! ## Changes backwards -/

theorem pairsOfEither_comm (before after : Baseline) :
    pairsOfEither after before = pairsOfEither before after := by
  refine
    (Sorting.strictlyAscending_sortOnce pairPrecedes_uniqueOrder _).eq_of_mem_iff
      pairPrecedes_uniqueOrder
      (Sorting.strictlyAscending_sortOnce pairPrecedes_uniqueOrder _) ?_
  intro pair
  exact
    mem_pairsOfEither_iff.trans (or_comm.trans mem_pairsOfEither_iff.symm)

theorem changeAt?_reverse
    (before after : Baseline)
    (pair : Text × Text) :
    changeAt? after before pair =
      (changeAt? before after pair).map Change.reverse := by
  unfold changeAt?
  dsimp only
  by_cases same : before.get? pair.1 pair.2 = after.get? pair.1 pair.2
  · rw [if_pos same, if_pos same.symm]
    rfl
  · rw [if_neg same, if_neg (Ne.symm same)]
    rfl

/-- The changes the other way round are the same ones backwards, in the same order. -/
theorem changes_reverse (before after : Baseline) :
    after.changes before = (before.changes after).map Change.reverse := by
  unfold changes
  rw [pairsOfEither_comm, List.map_filterMap]
  apply List.filterMap_congr
  intro pair _
  exact changeAt?_reverse before after pair

/-! ## Applying changes -/

/-- Give the pair of a change the count that it has afterwards, or none. -/
def applyChange (baseline : Baseline) (change : Change) : Baseline :=
  match change.after with
  | some count => baseline.set change.filename change.rule count
  | none => baseline.remove change.filename change.rule

/-- Apply changes one after the other. -/
def applyChanges (baseline : Baseline) (changes : List Change) : Baseline :=
  changes.foldl applyChange baseline

/-- A change is applied to its pair only. -/
theorem get?_applyChange
    (baseline : Baseline)
    (change : Change)
    (filename rule : Text) :
    (baseline.applyChange change).get? filename rule =
      if change.filename = filename ∧ change.rule = rule then
        change.after
      else
        baseline.get? filename rule := by
  unfold applyChange
  cases change.after with
  | some count => exact Ledger.get?_set baseline _ _ _ _ _
  | none => exact Ledger.get?_remove baseline _ _ _ _

/--
Changes that all lead to the same baseline give the pairs that they name the
entries of this baseline, and leave the others alone.
-/
theorem get?_applyChanges
    {changes : List Change}
    {after : Baseline}
    (told :
      ∀ change ∈ changes,
        change.after = after.get? change.filename change.rule)
    (baseline : Baseline)
    (filename rule : Text) :
    (baseline.applyChanges changes).get? filename rule =
      if ∃ change ∈ changes, change.filename = filename ∧ change.rule = rule then
        after.get? filename rule
      else
        baseline.get? filename rule := by
  induction changes generalizing baseline with
  | nil =>
      simp [applyChanges]
  | cons change later inductionHypothesis =>
      obtain ⟨toldFirst, toldLater⟩ := List.forall_mem_cons.mp told
      have stepwise :
          baseline.applyChanges (change :: later) =
            (baseline.applyChange change).applyChanges later :=
        rfl
      rw [stepwise, inductionHypothesis toldLater, get?_applyChange]
      by_cases samePair : change.filename = filename ∧ change.rule = rule
      · obtain ⟨rfl, rfl⟩ := samePair
        simp [toldFirst]
      · simp [samePair]

/-- The changes between two baselines lead from the first one to the second. -/
theorem get?_applyChanges_changes
    (before after : Baseline)
    (filename rule : Text) :
    (before.applyChanges (before.changes after)).get? filename rule =
      after.get? filename rule := by
  rw [get?_applyChanges fun change listed => (mem_changes_iff.mp listed).2.1]
  split
  · rfl
  · next notNamed =>
      refine Decidable.not_not.mp fun differs => notNamed ?_
      exact
        ⟨⟨filename, rule, _, _⟩, mem_changes_iff.mpr ⟨rfl, rfl, differs⟩, rfl,
          rfl⟩

/-! ## Changes by tightening -/

/-- Tightening adds no entry and raises none. -/
theorem kind_of_mem_changes_tighten
    {baseline : Baseline}
    {diagnostics : List Diagnostic}
    {change : Change}
    (listed : change ∈ baseline.changes (baseline.tighten diagnostics)) :
    change.kind = .removed ∨ change.kind = .lowered := by
  obtain ⟨old, new, differs⟩ := mem_changes_iff.mp listed
  rw [Change.kind_eq_iff differs, Change.kind_eq_iff differs]
  by_cases occurred :
      Diagnostic.occurrences diagnostics change.filename change.rule = 0
  · rw [get?_tighten_of_not_seen occurred] at new
    rw [new] at differs ⊢
    obtain ⟨count, had⟩ := Option.ne_none_iff_exists'.mp differs
    exact Or.inl (had ▸ .removed count)
  · rw [get?_tighten_of_seen occurred, ← old] at new
    rw [new] at differs ⊢
    cases had : change.before with
    | none =>
        rw [had] at differs
        exact (differs rfl).elim
    | some count =>
        rw [had, Option.map_some] at differs
        refine Or.inr (.lowered (Int.lt_iff_le_and_ne.mpr ⟨Int.min_le_left _ _, ?_⟩))
        exact fun same => differs (congrArg some same.symm)

/-! ## The changes as a whole -/

/--
A list of changes says exactly how one baseline differs from another: it is
strictly ascending, names the pairs whose entries differ with both entries, gives
the second baseline when it is applied to the first, and tells the kind of each
change.
-/
structure IsPatch
    (before after : Baseline)
    (changes : List Change) :
    Prop where
  ascending : changes.Pairwise Change.StandsBefore
  listed :
    ∀ change,
      change ∈ changes ↔
        change.before = before.get? change.filename change.rule ∧
          change.after = after.get? change.filename change.rule ∧
          change.before ≠ change.after
  applied :
    ∀ filename rule,
      (before.applyChanges changes).get? filename rule =
        after.get? filename rule
  kinds :
    ∀ change ∈ changes,
      ∀ kind : Change.Kind,
        change.kind = kind ↔ kind.Fits change.before change.after

/--
The changes between two baselines are an exact patch.  There are none if and only
if both baselines list the same entries, and the changes the other way round are
the same ones backwards.  Whatever was seen, tightening only ever removes an
entry or lowers it.
-/
theorem changes_are_exact_patch
    (before after : Baseline) :
    IsPatch before after (before.changes after) ∧
      (before.changes after = [] ↔ before.items.Perm after.items) ∧
      after.changes before = (before.changes after).map Change.reverse ∧
      ∀ diagnostics : List Diagnostic,
        ∀ change ∈ before.changes (before.tighten diagnostics),
          change.kind = .removed ∨ change.kind = .lowered := by
  have patch : IsPatch before after (before.changes after) := {
    ascending := changes_pairwise before after
    listed := fun _ => mem_changes_iff
    applied := get?_applyChanges_changes before after
    kinds := fun _ listed _ =>
      Change.kind_eq_iff (mem_changes_iff.mp listed).2.2
  }
  exact
    ⟨patch, changes_eq_nil_iff, changes_reverse before after,
      fun _ _ => kind_of_mem_changes_tighten⟩

/--
An entry with count zero differs from none, while a file without rules makes no
difference; a count that was lowered by tightening is told from one that is gone.
-/
theorem zero_count_is_a_change :
    let before : Baseline :=
      ((Ledger.empty.set [0x62] [0x72] 2).replaceFile [0x63]
        OrderedMap.empty).set [0x61] [0x72] 0
    let after : Baseline := Ledger.empty.set [0x62] [0x72] 3
    let zero : Change := ⟨[0x61], [0x72], some 0, none⟩
    let raised : Change := ⟨[0x62], [0x72], some 2, some 3⟩
    let seen : Diagnostic := { filename := [0x62], rule := [0x72] }
    let lowered : Change := ⟨[0x62], [0x72], some 2, some 1⟩
    before.changes after = [zero, raised] ∧
      zero.kind = .removed ∧
      raised.kind = .raised ∧
      after.changes before = [zero.reverse, raised.reverse] ∧
      (∀ filename rule,
        (before.applyChanges [zero, raised]).get? filename rule =
          after.get? filename rule) ∧
      before.changes before.pruneEmpty = [] ∧
      lowered ∈ before.changes (before.tighten [seen]) ∧
      lowered.kind = .lowered := by
  intro before after zero raised seen lowered
  have found : before.changes after = [zero, raised] := by decide
  obtain ⟨patch, _, backwards, tightened⟩ := changes_are_exact_patch before after
  obtain ⟨_, nothing, _⟩ := changes_are_exact_patch before before.pruneEmpty
  have listed : lowered ∈ before.changes (before.tighten [seen]) := by decide
  have applied := patch.applied
  have kinds := patch.kinds
  rw [found] at backwards applied kinds
  refine
    ⟨found, (kinds zero (by decide) _).mpr (.removed 0),
      (kinds raised (by decide) _).mpr (.raised (by decide)), backwards, applied,
      nothing.mpr ?_, listed, ?_⟩
  · exact Ledger.items_perm fun _ _ => (Ledger.get?_pruneEmpty _ _ _).symm
  · exact (tightened [seen] lowered listed).resolve_left (by decide)

end Baseline

end Tolerance
