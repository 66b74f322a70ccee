import Mathlib.Data.List.Induction
import Tolerance.Proofs.Occurrences

namespace Tolerance

/-!
# The order in which groups were first seen

An observation lists each file where it was first seen, and each rule of a file
where it was first seen in this file.  To put the diagnostics of each file side
by side, the files in the order of their first diagnostics, changes neither.
-/

open Diagnostic

namespace FirstAppearance

variable {α : Type} [BEq α] [LawfulBEq α]

/-- What comes last is listed last, unless it was there before. -/
theorem eraseDups_concat
    (items : List α)
    (item : α) :
    (items ++ [item]).eraseDups =
      if item ∈ items then items.eraseDups else items.eraseDups ++ [item] := by
  rw [List.eraseDups_append]
  by_cases member : item ∈ items <;>
    simp [List.removeAll, member, List.eraseDups_cons]

theorem nodup_eraseDups (items : List α) : items.eraseDups.Nodup := by
  induction items using List.reverseRecOn with
  | nil =>
      exact List.nodup_nil
  | append_singleton items item inductionHypothesis =>
      rw [eraseDups_concat]
      split
      · exact inductionHypothesis
      · next new =>
          apply List.nodup_append.mpr
          refine ⟨inductionHypothesis, List.nodup_singleton item, ?_⟩
          intro earlier member last isLast same
          apply new
          simpa [← List.mem_singleton.mp isLast, ← same] using member

/-- A block that repeats one item. -/
private theorem eraseDups_block
    {item : α}
    {block : List α}
    (something : block ≠ [])
    (constant : ∀ other ∈ block, other = item) :
    block.eraseDups = [item] := by
  cases block with
  | nil =>
      exact (something rfl).elim
  | cons first rest =>
      obtain ⟨rfl, restConstant⟩ := List.forall_mem_cons.mp constant
      have nothingElse : rest.filter (fun other => !other == first) = [] := by
        simpa [List.filter_eq_nil_iff] using restConstant
      rw [List.eraseDups_cons, nothingElse, List.eraseDups_nil]

/-- Of blocks that each repeat an item of their own these items are left. -/
theorem eraseDups_flatMap_blocks
    {items : List α}
    {block : α → List α}
    (distinct : items.Nodup)
    (something : ∀ item ∈ items, block item ≠ [])
    (constant : ∀ item ∈ items, ∀ other ∈ block item, other = item) :
    (items.flatMap block).eraseDups = items := by
  induction items using List.reverseRecOn with
  | nil =>
      rfl
  | append_singleton items item inductionHypothesis =>
      simp only [List.forall_mem_append, List.forall_mem_singleton] at something constant
      obtain ⟨distinctItems, _, apart⟩ := List.nodup_append.mp distinct
      have new :
          (block item).removeAll (items.flatMap block) = block item := by
        apply List.filter_eq_self.mpr
        intro other inBlock
        obtain rfl := constant.2 other inBlock
        simp only [List.elem_eq_mem, Bool.not_eq_true', decide_eq_false_iff_not,
          List.mem_flatMap, not_exists, not_and]
        intro earlier member inEarlier
        exact
          apart earlier member other List.mem_cons_self
            (constant.1 earlier member other inEarlier).symm
      rw [List.flatMap_append, List.flatMap_singleton, List.eraseDups_append,
        inductionHypothesis distinctItems something.1 constant.1, new,
        eraseDups_block something.2 constant.2]

/-- Of distinct items only one is the one looked for. -/
theorem flatMap_only
    {β : Type}
    [DecidableEq α]
    {items : List α}
    (distinct : items.Nodup)
    (item : α)
    (result : List β) :
    items.flatMap (fun other => if other = item then result else []) =
      if item ∈ items then result else [] := by
  induction items with
  | nil =>
      rfl
  | cons first rest inductionHypothesis =>
      obtain ⟨notInRest, distinctRest⟩ := List.nodup_cons.mp distinct
      rw [List.flatMap_cons, inductionHypothesis distinctRest]
      by_cases same : first = item
      · subst same
        simp [notInRest]
      · simp [same, Ne.symm same]

/--
Items that stand side by side with all others of their name are put together by
name as they stand.  The induction is on the names, each with the block of its
items.
-/
theorem flatMap_filter_of_blocks
    {β : Type}
    [DecidableEq α]
    {name : β → α}
    {names : List α}
    {block : α → List β}
    (distinct : names.Nodup)
    (constant : ∀ listed ∈ names, ∀ item ∈ block listed, name item = listed) :
    ((names.flatMap block).map name).eraseDups.flatMap
        (fun listed =>
          (names.flatMap block).filter fun item => name item = listed) =
      names.flatMap block := by
  induction names with
  | nil =>
      rfl
  | cons first rest inductionHypothesis =>
      obtain ⟨notInRest, distinctRest⟩ := List.nodup_cons.mp distinct
      obtain ⟨firstConstant, restConstant⟩ := List.forall_mem_cons.mp constant
      have later := inductionHypothesis distinctRest restConstant
      by_cases nothing : block first = []
      · simpa [nothing] using later
      have notFirst : ∀ item ∈ rest.flatMap block, name item ≠ first := by
        intro item member same
        obtain ⟨listed, inRest, inBlock⟩ := List.mem_flatMap.mp member
        have isListed := restConstant listed inRest item inBlock
        exact notInRest (same ▸ isListed ▸ inRest)
      have firstNames : ((block first).map name).eraseDups = [first] :=
        eraseDups_block (by simpa using nothing)
          (List.forall_mem_map.mpr firstConstant)
      have otherNames :
          ((rest.flatMap block).map name).removeAll ((block first).map name) =
            (rest.flatMap block).map name := by
        apply List.filter_eq_self.mpr
        intro listed isName
        obtain ⟨item, member, rfl⟩ := List.mem_map.mp isName
        simp only [List.elem_eq_mem, Bool.not_eq_true', decide_eq_false_iff_not,
          List.mem_map, not_exists, not_and]
        intro other inFirst same
        exact notFirst item member (same ▸ firstConstant other inFirst)
      have firstItems :
          (block first ++ rest.flatMap block).filter
              (fun item => name item = first) =
            block first := by
        rw [List.filter_append,
          List.filter_eq_self.mpr fun item member =>
            decide_eq_true (firstConstant item member),
          List.filter_eq_nil_iff.mpr fun item member same =>
            notFirst item member (of_decide_eq_true same),
          List.append_nil]
      have otherItems :
          ∀ listed ∈ ((rest.flatMap block).map name).eraseDups,
            (block first ++ rest.flatMap block).filter
                (fun item => name item = listed) =
              (rest.flatMap block).filter fun item => name item = listed := by
        intro listed member
        rw [List.mem_eraseDups] at member
        obtain ⟨other, inRest, rfl⟩ := List.mem_map.mp member
        rw [List.filter_append,
          List.filter_eq_nil_iff.mpr fun item inFirst same =>
            notFirst other inRest
              ((of_decide_eq_true same).symm.trans (firstConstant item inFirst)),
          List.nil_append]
      rw [List.flatMap_cons, List.map_append, List.eraseDups_append, firstNames,
        otherNames, List.flatMap_append, List.flatMap_singleton, firstItems,
        List.flatMap_congr otherItems, later]

end FirstAppearance

open FirstAppearance

/-! ## The groups of an observation -/

namespace Ledger

/-- The listed pairs, file by file. -/
theorem items_map_pair
    {Value : Type}
    (ledger : Ledger Value) :
    ledger.items.map (fun item => (item.1, item.2.1)) =
      ledger.filenames.flatMap fun filename =>
        (ledger.rules filename).keys.map (filename, ·) := by
  rw [items, List.map_flatMap, filenames, OrderedMap.keys, List.flatMap_map]
  apply List.flatMap_congr
  intro file member
  have listed : ledger.rules file.1 = file.2 := by
    rw [rules, OrderedMap.get?_eq_some_iff.mpr member, Option.getD_some]
  simp [listed, OrderedMap.keys]

end Ledger

namespace Diagnostic

/-- The diagnostics about a file, in their order. -/
def allIn
    (diagnostics : List Diagnostic)
    (filename : Text) :
    List Diagnostic :=
  diagnostics.filter fun diagnostic => diagnostic.filename = filename

/--
The pairs of file and rule that were seen: the files in order of first
appearance, and the rules of each file in order of first appearance there.
-/
def pairsSeen (diagnostics : List Diagnostic) : List (Text × Text) :=
  (diagnostics.map Diagnostic.filename).eraseDups.flatMap fun filename =>
    ((allIn diagnostics filename).map Diagnostic.rule).eraseDups.map
      (filename, ·)

private theorem allIn_concat
    (diagnostics : List Diagnostic)
    (diagnostic : Diagnostic)
    (filename : Text) :
    allIn (diagnostics ++ [diagnostic]) filename =
      if diagnostic.filename = filename then
        allIn diagnostics filename ++ [diagnostic]
      else
        allIn diagnostics filename := by
  by_cases same : diagnostic.filename = filename <;> simp [allIn, same]

end Diagnostic

namespace Observation

private theorem ofDiagnostics_concat
    (diagnostics : List Diagnostic)
    (diagnostic : Diagnostic) :
    ofDiagnostics (diagnostics ++ [diagnostic]) =
      (ofDiagnostics diagnostics).add diagnostic := by
  simp [ofDiagnostics]

/-- Files are listed in order of first appearance. -/
theorem filenames_ofDiagnostics (diagnostics : List Diagnostic) :
    (ofDiagnostics diagnostics).filenames =
      (diagnostics.map Diagnostic.filename).eraseDups := by
  induction diagnostics using List.reverseRecOn with
  | nil =>
      rfl
  | append_singleton diagnostics diagnostic inductionHypothesis =>
      rw [ofDiagnostics_concat, List.map_append, List.map_singleton,
        eraseDups_concat, ← inductionHypothesis]
      have added :
          ((ofDiagnostics diagnostics).add diagnostic).filenames =
            if diagnostic.filename ∈ (ofDiagnostics diagnostics).filenames then
              (ofDiagnostics diagnostics).filenames
            else
              (ofDiagnostics diagnostics).filenames ++ [diagnostic.filename] :=
        OrderedMap.keys_insert _ _ _
      simp only [added, mem_filenames_ofDiagnostics]

/-- The rules of a file are listed in order of first appearance there. -/
theorem keys_rules_ofDiagnostics
    (diagnostics : List Diagnostic)
    (filename : Text) :
    ((ofDiagnostics diagnostics).rules filename).keys =
      ((allIn diagnostics filename).map Diagnostic.rule).eraseDups := by
  induction diagnostics using List.reverseRecOn with
  | nil =>
      rfl
  | append_singleton diagnostics diagnostic inductionHypothesis =>
      rw [ofDiagnostics_concat, add, Ledger.set, Ledger.rules_replaceFile,
        allIn_concat]
      by_cases same : diagnostic.filename = filename
      · simp only [same, ↓reduceIte, OrderedMap.keys_insert, inductionHypothesis,
          List.map_append, List.map_singleton, eraseDups_concat,
          List.mem_eraseDups]
      · simpa [same] using inductionHypothesis

/-- Groups are listed in order of first appearance, file by file. -/
theorem items_ofDiagnostics (diagnostics : List Diagnostic) :
    (ofDiagnostics diagnostics).items =
      (pairsSeen diagnostics).map fun pair =>
        (pair.1, pair.2, allAbout diagnostics pair.1 pair.2) := by
  have pairs :
      pairsSeen diagnostics =
        (ofDiagnostics diagnostics).items.map fun item =>
          (item.1, item.2.1) := by
    simp only [Ledger.items_map_pair, filenames_ofDiagnostics,
      keys_rules_ofDiagnostics, pairsSeen]
  rw [pairs, List.map_map]
  refine (List.map_id _).symm.trans (List.map_congr_left ?_)
  intro item member
  obtain ⟨held, _⟩ := mem_items_ofDiagnostics.mp member
  simp [← held]

end Observation

namespace Excess

/-- The files of several groups are listed in order of first appearance. -/
theorem filenames_eq_eraseDups (groups : List Excess) :
    filenames groups = (groups.map Excess.filename).eraseDups := by
  induction groups using List.reverseRecOn with
  | nil =>
      rfl
  | append_singleton groups group inductionHypothesis =>
      have added :
          filenames (groups ++ [group]) =
            if (filenames groups).contains group.filename then
              filenames groups
            else
              filenames groups ++ [group.filename] := by
        rw [filenames, List.foldl_append]
        rfl
      rw [added, inductionHypothesis, List.map_append, List.map_singleton,
        eraseDups_concat]
      simp only [List.contains_iff_mem, List.mem_eraseDups]

end Excess

namespace Baseline

private theorem map_tally_excessOfGroup
    (baseline : Baseline)
    (filename rule : Text)
    {held other : List Diagnostic}
    (sameLength : held.length = other.length) :
    (baseline.excessOfGroup (filename, rule, held)).map Excess.tally =
      (baseline.excessOfGroup (filename, rule, other)).map Excess.tally := by
  simp only [excessOfGroup, sameLength]
  split <;> rfl

/-- The groups of a file are reported side by side, the files in order of first appearance. -/
theorem flatMap_filter_excess
    (baseline : Baseline)
    (diagnostics : List Diagnostic) :
    ((baseline.excess diagnostics).map Excess.filename).eraseDups.flatMap
        (fun filename =>
          (baseline.excess diagnostics).filter fun group =>
            group.filename = filename) =
      baseline.excess diagnostics := by
  have blocks :
      baseline.excess diagnostics =
        (diagnostics.map Diagnostic.filename).eraseDups.flatMap fun filename =>
          ((((allIn diagnostics filename).map Diagnostic.rule).eraseDups.map
              fun rule =>
                (filename, rule, allAbout diagnostics filename rule)).filterMap
            baseline.excessOfGroup) := by
    rw [excess, Observation.items_ofDiagnostics, pairsSeen, List.map_flatMap,
      List.filterMap_flatMap]
    simp only [List.map_map, Function.comp_def]
  rw [blocks]
  refine flatMap_filter_of_blocks (nodup_eraseDups _) ?_
  intro filename _ group member
  obtain ⟨item, isItem, compared⟩ := List.mem_filterMap.mp member
  obtain ⟨rule, _, rfl⟩ := List.mem_map.mp isItem
  exact (Prod.mk.inj (pair_of_excessOfGroup compared)).1

/--
Two observations that saw the same pairs in the same order, each pair as often,
give reports that differ in nothing but the diagnostics.
-/
theorem map_tally_excess_congr
    (baseline : Baseline)
    {left right : List Diagnostic}
    (samePairs : pairsSeen left = pairsSeen right)
    (same : SameOccurrences left right) :
    (baseline.excess left).map Excess.tally =
      (baseline.excess right).map Excess.tally := by
  simp only [excess, Observation.items_ofDiagnostics, List.map_filterMap,
    List.filterMap_map, samePairs]
  apply List.filterMap_congr
  intro pair _
  exact map_tally_excessOfGroup baseline pair.1 pair.2 (same pair.1 pair.2)

end Baseline

/-! ## Diagnostics file by file -/

namespace Diagnostic

/--
The diagnostics file by file, the files in order of first appearance, those of
each file in their order.
-/
def byFile (diagnostics : List Diagnostic) : List Diagnostic :=
  (diagnostics.map Diagnostic.filename).eraseDups.flatMap (allIn diagnostics)

theorem allIn_byFile
    (diagnostics : List Diagnostic)
    (filename : Text) :
    allIn (byFile diagnostics) filename = allIn diagnostics filename := by
  have inner
      (other : Text) :
      allIn (allIn diagnostics other) filename =
        if other = filename then allIn diagnostics filename else [] := by
    rw [allIn, allIn, List.filter_filter]
    by_cases same : other = filename
    · simp [same, allIn]
    · simp only [same, ↓reduceIte, List.filter_eq_nil_iff]
      intro diagnostic _ both
      simp only [Bool.and_eq_true, decide_eq_true_eq] at both
      exact same (both.2.symm.trans both.1)
  have spread :
      allIn (byFile diagnostics) filename =
        (diagnostics.map Diagnostic.filename).eraseDups.flatMap fun other =>
          allIn (allIn diagnostics other) filename :=
    List.filter_flatMap
  rw [spread]
  simp only [inner]
  rw [flatMap_only (nodup_eraseDups _)]
  split
  · rfl
  · next notSeen =>
      symm
      apply List.filter_eq_nil_iff.mpr
      intro diagnostic member same
      apply notSeen
      rw [List.mem_eraseDups, ← of_decide_eq_true same]
      exact List.mem_map_of_mem member

/-- Nothing is lost or added when diagnostics are put file by file. -/
theorem byFile_perm (diagnostics : List Diagnostic) :
    (byFile diagnostics).Perm diagnostics := by
  apply List.perm_iff_count.mpr
  intro diagnostic
  have counted
      (others : List Diagnostic) :
      (allIn others diagnostic.filename).count diagnostic =
        others.count diagnostic :=
    List.count_filter (by simp)
  rw [← counted, allIn_byFile, counted]

/-- The same pairs are seen in the same order file by file. -/
theorem pairsSeen_byFile (diagnostics : List Diagnostic) :
    pairsSeen (byFile diagnostics) = pairsSeen diagnostics := by
  have sameFiles :
      ((byFile diagnostics).map Diagnostic.filename).eraseDups =
        (diagnostics.map Diagnostic.filename).eraseDups := by
    rw [byFile, List.map_flatMap]
    apply eraseDups_flatMap_blocks (nodup_eraseDups _)
    · intro filename member
      rw [List.mem_eraseDups, List.mem_map] at member
      obtain ⟨diagnostic, seen, same⟩ := member
      simp only [ne_eq, List.map_eq_nil_iff, allIn, List.filter_eq_nil_iff,
        not_forall]
      exact ⟨diagnostic, seen, by simp [same]⟩
    · intro filename _ other member
      obtain ⟨diagnostic, inFile, rfl⟩ := List.mem_map.mp member
      exact of_decide_eq_true (List.mem_filter.mp inFile).2
  simp only [pairsSeen, sameFiles, allIn_byFile]

end Diagnostic

end Tolerance
