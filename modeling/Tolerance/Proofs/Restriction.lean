import Mathlib.Data.List.Basic
import Mathlib.Data.Set.Defs
import Tolerance.Proofs.Observation

namespace Tolerance

/-!
# Looking at some files only

A ledger is restricted to a set of files by leaving out the others, and so are
the diagnostics of a run.  What is left keeps its order, and of the files of the
set nothing is lost.
-/

open Diagnostic

/-- To leave elements out before they are expanded is to expand them to nothing. -/
theorem Restriction.flatMap_filter
    {Element Result : Type}
    (keep : Element → Bool)
    (expand : Element → List Result)
    (elements : List Element) :
    (elements.filter keep).flatMap expand =
      elements.flatMap fun element =>
        if keep element then expand element else [] := by
  induction elements with
  | nil =>
      rfl
  | cons first rest inductionHypothesis =>
      cases kept : keep first <;> simp [kept, inductionHypothesis]

variable (files : Set Text) [DecidablePred (· ∈ files)]

namespace OrderedMap

variable {Value : Type}

private theorem filter_put
    (keep : Text → Bool)
    (key : Text)
    (value : Value)
    (entries : List (Text × Value)) :
    (put key value entries).filter (fun entry => keep entry.1) =
      if keep key then
        put key value (entries.filter fun entry => keep entry.1)
      else
        entries.filter fun entry => keep entry.1 := by
  induction entries with
  | nil =>
      cases kept : keep key <;> simp [put, kept]
  | cons entry later inductionHypothesis =>
      by_cases same : entry.1 = key
      · cases kept : keep key <;> simp [put, same, kept]
      · cases keptKey : keep key <;>
          cases keptEntry : keep entry.1 <;>
            simp [put, same, keptKey, keptEntry, inductionHypothesis]

/-- A key that is left out leaves no trace, and any other one gets its place. -/
theorem filter_insert
    (map : OrderedMap Value)
    (keep : Text → Bool)
    (key : Text)
    (value : Value) :
    (map.insert key value).filter (fun entry => keep entry.1) =
      if keep key then
        (map.filter fun entry => keep entry.1).insert key value
      else
        map.filter fun entry => keep entry.1 := by
  apply eq_of_entries
  refine (filter_put keep key value map.entries).trans ?_
  split <;> rfl

end OrderedMap

namespace Ledger

variable {Value Other : Type}

/-- The files of a set with their rules, in their order. -/
def restrict (ledger : Ledger Value) : Ledger Value where
  files := ledger.files.filter fun file => file.1 ∈ files

theorem files_get?_restrict
    (ledger : Ledger Value)
    (filename : Text) :
    (ledger.restrict files).files.get? filename =
      if filename ∈ files then ledger.files.get? filename else none := by
  rw [restrict, OrderedMap.get?_filter]
  cases ledger.files.get? filename <;> simp [Option.filter]

/-- A file of the set keeps its rules, and any other one loses them. -/
theorem rules_restrict
    (ledger : Ledger Value)
    (filename : Text) :
    (ledger.restrict files).rules filename =
      if filename ∈ files then ledger.rules filename else OrderedMap.empty := by
  unfold rules
  rw [files_get?_restrict]
  split <;> rfl

theorem get?_restrict
    (ledger : Ledger Value)
    (filename rule : Text) :
    (ledger.restrict files).get? filename rule =
      if filename ∈ files then ledger.get? filename rule else none := by
  unfold get?
  rw [rules_restrict]
  split <;> rfl

/-- Leaving files out leaves a canonical ledger canonical. -/
theorem Canonical.restrict
    {ledger : Ledger Value}
    (canonical : ledger.Canonical) :
    (ledger.restrict files).Canonical := by
  have listedBefore
      {filename : Text}
      {rules : OrderedMap Value}
      (listed : (ledger.restrict files).files.get? filename = some rules) :
      ledger.files.get? filename = some rules := by
    rw [files_get?_restrict] at listed
    split at listed
    · exact listed
    · cases listed
  exact
    { ascending.files := canonical.ascending.files.filter _
      ascending.rules := fun _ _ listed =>
        canonical.ascending.rules (listedBefore listed)
      pruned := fun _ _ listed => canonical.pruned (listedBefore listed) }

/-- The entries that are left are those about the files of the set. -/
theorem items_restrict (ledger : Ledger Value) :
    (ledger.restrict files).items =
      ledger.items.filter fun item => item.1 ∈ files := by
  unfold items restrict OrderedMap.filter
  rw [Restriction.flatMap_filter, List.filter_flatMap]
  apply List.flatMap_congr
  intro file _
  symm
  split
  · next kept =>
      refine List.filter_eq_self.mpr (List.forall_mem_map.mpr ?_)
      exact fun _ _ => kept
  · next leftOut =>
      refine List.filter_eq_nil_iff.mpr (List.forall_mem_map.mpr ?_)
      exact fun _ _ => leftOut

theorem restrict_replaceFile
    (ledger : Ledger Value)
    (filename : Text)
    (rules : OrderedMap Value) :
    (ledger.replaceFile filename rules).restrict files =
      if filename ∈ files then
        (ledger.restrict files).replaceFile filename rules
      else
        ledger.restrict files := by
  unfold restrict replaceFile
  rw [OrderedMap.filter_insert _ fun name => decide (name ∈ files)]
  by_cases kept : filename ∈ files <;> simp [kept]

end Ledger

namespace Diagnostic

/-- The diagnostics about the files of a set, in their order. -/
def restrict (diagnostics : List Diagnostic) : List Diagnostic :=
  diagnostics.filter fun diagnostic => diagnostic.filename ∈ files

/-- Diagnostics that are kept by their file and rule are kept all together or not at all. -/
theorem allAbout_filter
    (keep : Text → Text → Bool)
    (diagnostics : List Diagnostic)
    (filename rule : Text) :
    allAbout
        (diagnostics.filter fun diagnostic =>
          keep diagnostic.filename diagnostic.rule)
        filename rule =
      if keep filename rule then allAbout diagnostics filename rule else [] := by
  unfold allAbout
  rw [List.filter_filter]
  split
  · next kept =>
      apply List.filter_congr
      intro diagnostic _
      rw [Bool.and_eq_left_iff_imp, isAbout, decide_eq_true_eq]
      rintro ⟨rfl, rfl⟩
      exact kept
  · next leftOut =>
      apply List.filter_eq_nil_iff.mpr
      intro diagnostic _ both
      simp only [Bool.and_eq_true, isAbout, decide_eq_true_eq] at both
      obtain ⟨⟨rfl, rfl⟩, kept⟩ := both
      exact leftOut kept

theorem allAbout_restrict
    (diagnostics : List Diagnostic)
    (filename rule : Text) :
    allAbout (restrict files diagnostics) filename rule =
      if filename ∈ files then allAbout diagnostics filename rule else [] := by
  simpa [restrict] using
    allAbout_filter (fun name _ => decide (name ∈ files)) diagnostics
      filename rule

theorem occurrences_restrict
    (diagnostics : List Diagnostic)
    (filename rule : Text) :
    occurrences (restrict files diagnostics) filename rule =
      if filename ∈ files then occurrences diagnostics filename rule else 0 := by
  unfold occurrences
  rw [allAbout_restrict]
  split <;> rfl

theorem mem_map_filename_restrict
    {diagnostics : List Diagnostic}
    {filename : Text} :
    filename ∈ (restrict files diagnostics).map Diagnostic.filename ↔
      filename ∈ diagnostics.map Diagnostic.filename ∧ filename ∈ files := by
  simp only [restrict, List.mem_map, List.mem_filter, decide_eq_true_eq]
  constructor
  · rintro ⟨diagnostic, ⟨seen, kept⟩, rfl⟩
    exact ⟨⟨diagnostic, seen, rfl⟩, kept⟩
  · rintro ⟨⟨diagnostic, seen, rfl⟩, kept⟩
    exact ⟨diagnostic, ⟨seen, kept⟩, rfl⟩

end Diagnostic

namespace Observation

/-- A diagnostic about a file outside the set changes nothing inside it. -/
private theorem restrict_add
    (observation : Observation)
    (diagnostic : Diagnostic) :
    (observation.add diagnostic).restrict files =
      if diagnostic.filename ∈ files then
        add (observation.restrict files) diagnostic
      else
        observation.restrict files := by
  rw [add, Ledger.set, Ledger.restrict_replaceFile]
  split
  · next kept =>
      simp only [add, Ledger.set, group, Ledger.get?_restrict,
        Ledger.rules_restrict, kept, ↓reduceIte]
  · rfl

private theorem restrict_foldl_add
    (diagnostics : List Diagnostic)
    (start : Observation) :
    (diagnostics.foldl add start).restrict files =
      (Diagnostic.restrict files diagnostics).foldl add
        (start.restrict files) := by
  induction diagnostics generalizing start with
  | nil =>
      rfl
  | cons diagnostic later inductionHypothesis =>
      rw [List.foldl_cons, inductionHypothesis, restrict_add]
      by_cases kept : diagnostic.filename ∈ files <;>
        simp [kept, Diagnostic.restrict]

/--
The groups of the files of a set are those that their diagnostics alone would
make, in the same order.
-/
theorem ofDiagnostics_restrict (diagnostics : List Diagnostic) :
    ofDiagnostics (Diagnostic.restrict files diagnostics) =
      (ofDiagnostics diagnostics).restrict files :=
  (restrict_foldl_add files diagnostics Ledger.empty).symm

end Observation

namespace Baseline

theorem count_restrict
    (baseline : Baseline)
    (filename rule : Text) :
    count (baseline.restrict files) filename rule =
      if filename ∈ files then baseline.count filename rule else 0 := by
  unfold count
  rw [Ledger.get?_restrict]
  split <;> rfl

theorem pairs_restrict (baseline : Baseline) :
    pairs (baseline.restrict files) =
      baseline.pairs.filter fun pair => pair.1 ∈ files := by
  rw [pairs, Ledger.items_restrict, pairs, List.filter_map]
  rfl

end Baseline

end Tolerance
