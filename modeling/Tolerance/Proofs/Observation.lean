import Mathlib.Algebra.Order.Ring.Nat
import Mathlib.Order.Fin.Basic
import Tolerance.Baseline.Observation
import Tolerance.Proofs.Ledger

namespace Tolerance

/-!
# What an observation holds

The group of a rule in a file is the part of the diagnostics that are about
this rule in this file, in their order.  Only what was seen is listed, and the
observed baseline counts it.
-/

namespace Diagnostic

/-- Whether a diagnostic is about a rule in a file. -/
def isAbout (filename rule : Text) (diagnostic : Diagnostic) : Bool :=
  decide (diagnostic.filename = filename ∧ diagnostic.rule = rule)

/-- The diagnostics about a rule in a file, in their order. -/
def allAbout
    (diagnostics : List Diagnostic)
    (filename rule : Text) :
    List Diagnostic :=
  diagnostics.filter (isAbout filename rule)

/-- How many diagnostics are about a rule in a file. -/
def occurrences
    (diagnostics : List Diagnostic)
    (filename rule : Text) :
    Nat :=
  (allAbout diagnostics filename rule).length

theorem allAbout_cons
    (diagnostic : Diagnostic)
    (later : List Diagnostic)
    (filename rule : Text) :
    allAbout (diagnostic :: later) filename rule =
      if diagnostic.filename = filename ∧ diagnostic.rule = rule then
        diagnostic :: allAbout later filename rule
      else
        allAbout later filename rule := by
  simp [allAbout, List.filter_cons, isAbout]

/-- A rule occurs in a file as soon as one diagnostic is about it. -/
theorem occurrences_ne_zero_iff
    {diagnostics : List Diagnostic}
    {filename rule : Text} :
    occurrences diagnostics filename rule ≠ 0 ↔
      ∃ diagnostic ∈ diagnostics,
        diagnostic.filename = filename ∧ diagnostic.rule = rule := by
  simp [occurrences, allAbout, isAbout]

/-- A diagnostic is about one pair of file and rule only. -/
theorem sum_occurrences_le
    (diagnostics : List Diagnostic)
    {pairs : List (Text × Text)}
    (distinct : pairs.Nodup) :
    (pairs.map fun pair => occurrences diagnostics pair.1 pair.2).sum ≤
      diagnostics.length := by
  induction pairs generalizing diagnostics with
  | nil =>
      simp
  | cons pair rest inductionHypothesis =>
      obtain ⟨new, restDistinct⟩ := List.nodup_cons.mp distinct
      -- The other pairs occur as often when those about the first one are taken out.
      let others := diagnostics.filter fun diagnostic => !isAbout pair.1 pair.2 diagnostic
      have same :
          ∀ other ∈ rest,
            occurrences others other.1 other.2 =
              occurrences diagnostics other.1 other.2 := by
        intro other member
        unfold occurrences allAbout
        rw [List.filter_filter]
        refine congrArg List.length (List.filter_congr fun diagnostic _ => ?_)
        rw [Bool.and_eq_left_iff_imp, isAbout, isAbout, decide_eq_true_eq,
          Bool.not_eq_true', decide_eq_false_iff_not]
        rintro ⟨otherFile, otherRule⟩ ⟨file, rule⟩
        have samePair : other = pair :=
          Prod.ext (otherFile.symm.trans file) (otherRule.symm.trans rule)
        exact new (samePair ▸ member)
      have bound := inductionHypothesis others restDistinct
      rw [List.map_congr_left same] at bound
      have parts :
          diagnostics.length =
            occurrences diagnostics pair.1 pair.2 + others.length := by
        rw [List.length_eq_countP_add_countP (isAbout pair.1 pair.2),
          List.countP_eq_length_filter, List.countP_eq_length_filter]
        simp [occurrences, allAbout, others]
      rw [List.map_cons, List.sum_cons]
      omega

end Diagnostic

open Diagnostic

namespace Ledger

variable {Value : Type}

/-- The listed files are those with a map of rules. -/
theorem mem_filenames_iff
    {ledger : Ledger Value}
    {filename : Text} :
    filename ∈ ledger.filenames ↔
      (ledger.files.get? filename).isSome :=
  OrderedMap.mem_keys_iff

/-- Replacing a file's rules lists this file beside those listed before. -/
theorem mem_filenames_replaceFile
    {ledger : Ledger Value}
    {filename query : Text}
    {rules : OrderedMap Value} :
    query ∈ (ledger.replaceFile filename rules).filenames ↔
      filename = query ∨ query ∈ ledger.filenames := by
  simp only [mem_filenames_iff, replaceFile, OrderedMap.get?_insert]
  by_cases same : filename = query <;> simp [same]

theorem mem_filenames_sorted
    {ledger : Ledger Value}
    {filename : Text} :
    filename ∈ ledger.sorted.filenames ↔ filename ∈ ledger.filenames := by
  simp [mem_filenames_iff, files_get?_sorted]

theorem mem_filenames_mapValues
    {Other : Type}
    {ledger : Ledger Value}
    {change : Value → Other}
    {filename : Text} :
    filename ∈ (ledger.mapValues change).filenames ↔
      filename ∈ ledger.filenames := by
  simp [mem_filenames_iff, mapValues, OrderedMap.get?_mapValues]

end Ledger

namespace Observation

private theorem get?_add
    (observation : Observation)
    (diagnostic : Diagnostic)
    (filename rule : Text) :
    (observation.add diagnostic).get? filename rule =
      if diagnostic.filename = filename ∧ diagnostic.rule = rule then
        some (observation.group filename rule ++ [diagnostic])
      else
        observation.get? filename rule := by
  rw [add, Ledger.get?_set]
  split
  · next same =>
      rw [same.1, same.2]
  · rfl

/--
Adding diagnostics extends each group by those that are about its rule and
file.
-/
private theorem get?_foldl_add
    (diagnostics : List Diagnostic)
    (start : Observation)
    (filename rule : Text) :
    (diagnostics.foldl add start).get? filename rule =
      if allAbout diagnostics filename rule = [] then
        start.get? filename rule
      else
        some (start.group filename rule ++
          allAbout diagnostics filename rule) := by
  induction diagnostics generalizing start with
  | nil =>
      rfl
  | cons diagnostic later inductionHypothesis =>
      rw [List.foldl_cons, inductionHypothesis, allAbout_cons]
      by_cases about : diagnostic.filename = filename ∧ diagnostic.rule = rule
      · by_cases last : allAbout later filename rule = [] <;>
          simp [group, get?_add, about, last]
      · simp [group, get?_add, about]

/--
A group holds the diagnostics about its rule and file, and only what was seen
is listed.
-/
theorem get?_ofDiagnostics
    (diagnostics : List Diagnostic)
    (filename rule : Text) :
    (ofDiagnostics diagnostics).get? filename rule =
      if allAbout diagnostics filename rule = [] then
        none
      else
        some (allAbout diagnostics filename rule) := by
  simp [ofDiagnostics, get?_foldl_add, group]

/-- A group holds the diagnostics about its rule and file, in their order. -/
theorem group_ofDiagnostics
    (diagnostics : List Diagnostic)
    (filename rule : Text) :
    (ofDiagnostics diagnostics).group filename rule =
      allAbout diagnostics filename rule := by
  rw [group, get?_ofDiagnostics]
  split
  · next nothing =>
      rw [nothing]
      rfl
  · rfl

/--
The listed groups are those that hold what was seen of a pair, where something
was.
-/
theorem mem_items_ofDiagnostics
    {diagnostics : List Diagnostic}
    {filename rule : Text}
    {held : List Diagnostic} :
    (filename, rule, held) ∈ (ofDiagnostics diagnostics).items ↔
      held = allAbout diagnostics filename rule ∧ held ≠ [] := by
  rw [Ledger.mem_items_iff, get?_ofDiagnostics]
  constructor
  · intro listed
    split at listed
    · cases listed
    · next something =>
        cases listed
        exact ⟨rfl, something⟩
  · rintro ⟨rfl, something⟩
    exact if_neg something

private theorem mem_filenames_foldl_add
    (diagnostics : List Diagnostic)
    (start : Observation)
    (filename : Text) :
    filename ∈ (diagnostics.foldl add start).filenames ↔
      filename ∈ diagnostics.map Diagnostic.filename ∨
        filename ∈ start.filenames := by
  induction diagnostics generalizing start with
  | nil =>
      simp
  | cons diagnostic later inductionHypothesis =>
      rw [List.foldl_cons, inductionHypothesis, add, Ledger.set,
        Ledger.mem_filenames_replaceFile, List.map_cons, List.mem_cons,
        eq_comm (a := filename)]
      exact or_left_comm.trans or_assoc.symm

/-- The files that an observation lists are those that were seen. -/
theorem mem_filenames_ofDiagnostics
    {diagnostics : List Diagnostic}
    {filename : Text} :
    filename ∈ (ofDiagnostics diagnostics).filenames ↔
      filename ∈ diagnostics.map Diagnostic.filename := by
  rw [ofDiagnostics, mem_filenames_foldl_add]
  exact or_iff_left List.not_mem_nil

end Observation

namespace Baseline

/-- The observed baseline counts what was seen of a rule in a file. -/
theorem get?_observed
    (diagnostics : List Diagnostic)
    (filename rule : Text) :
    (observed diagnostics).get? filename rule =
      if occurrences diagnostics filename rule = 0 then
        none
      else
        some (occurrences diagnostics filename rule : Int) := by
  rw [observed, Ledger.get?_sorted, Observation.counts, Ledger.get?_mapValues,
    Observation.get?_ofDiagnostics]
  by_cases nothing : allAbout diagnostics filename rule = [] <;>
    simp [occurrences, nothing]

/-- The files that the observed baseline lists are those that were seen. -/
theorem mem_filenames_observed
    {diagnostics : List Diagnostic}
    {filename : Text} :
    filename ∈ (observed diagnostics).filenames ↔
      filename ∈ diagnostics.map Diagnostic.filename := by
  rw [observed, Ledger.mem_filenames_sorted, Observation.counts,
    Ledger.mem_filenames_mapValues, Observation.mem_filenames_ofDiagnostics]

end Baseline

end Tolerance
