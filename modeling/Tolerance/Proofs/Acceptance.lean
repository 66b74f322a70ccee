import Tolerance.Baseline.Change
import Tolerance.Proofs.Excess
import Tolerance.Proofs.Storage

namespace Tolerance.Baseline

/-!
# Accepting what was seen

A baseline that has absorbed an observation and was saved is loaded as it was,
tolerates all that was seen, and stays as it is when the same observation is
absorbed once more.
-/

open Diagnostic Workspace

/-- What was absorbed has no count below zero. -/
theorem Nonnegative.absorb
    {baseline : Baseline}
    (nonnegative : baseline.Nonnegative)
    (diagnostics : List Diagnostic) :
    (baseline.absorb diagnostics).Nonnegative := by
  rw [nonnegative_iff] at nonnegative ⊢
  intro filename rule tolerated found
  by_cases seen : filename ∈ diagnostics.map Diagnostic.filename
  · rw [get?_absorb_of_mem seen, get?_observed] at found
    split at found
    · cases found
    · cases found
      exact Int.natCast_nonneg _
  · rw [get?_absorb_of_not_mem seen] at found
    exact nonnegative filename rule tolerated found

/--
The names of what was absorbed are those of the baseline and of what was seen.
-/
theorem surrogatesApart_absorb
    {baseline : Baseline}
    (apart : baseline.SurrogatesApart)
    {diagnostics : List Diagnostic}
    (apartDiagnostics :
      ∀ diagnostic ∈ diagnostics,
        diagnostic.filename.SurrogatesApart ∧
          diagnostic.rule.SurrogatesApart) :
    (baseline.absorb diagnostics).SurrogatesApart := by
  rw [Ledger.surrogatesApart_iff] at apart ⊢
  intro filename rule tolerated found
  by_cases seen : filename ∈ diagnostics.map Diagnostic.filename
  · rw [get?_absorb_of_mem seen, get?_observed] at found
    split at found
    · cases found
    · next occurs =>
        obtain ⟨diagnostic, member, rfl, rfl⟩ :=
          occurrences_ne_zero_iff.mp occurs
        exact apartDiagnostics diagnostic member
  · rw [get?_absorb_of_not_mem seen] at found
    exact apart filename rule tolerated found

/-- Nothing that was absorbed is in excess. -/
theorem excess_absorb
    (baseline : Baseline)
    (diagnostics : List Diagnostic) :
    (baseline.absorb diagnostics).excess diagnostics = [] := by
  refine List.eq_nil_iff_forall_not_mem.mpr ?_
  intro group member
  obtain ⟨sameDiagnostics, something, sameActual, sameExpected, tooMany⟩ :=
    mem_excess_iff.mp member
  have occurs : occurrences diagnostics group.filename group.rule ≠ 0 := by
    rw [occurrences, ← sameDiagnostics]
    exact fun nothing => something (List.length_eq_zero_iff.mp nothing)
  obtain ⟨diagnostic, inDiagnostics, sameFile, _⟩ :=
    occurrences_ne_zero_iff.mp occurs
  have seen : group.filename ∈ diagnostics.map Diagnostic.filename :=
    sameFile ▸ List.mem_map_of_mem inDiagnostics
  have tolerated :
      (baseline.absorb diagnostics).count group.filename group.rule =
        occurrences diagnostics group.filename group.rule := by
    rw [count, get?_absorb_of_mem seen, get?_observed, if_neg occurs]
    rfl
  rw [sameExpected, sameActual, tolerated] at tooMany
  exact (Int.lt_irrefl _ tooMany).elim

/-- Absorbing an observation once more changes nothing. -/
theorem absorb_absorb
    (baseline : Baseline)
    (diagnostics : List Diagnostic) :
    (baseline.absorb diagnostics).absorb diagnostics =
      baseline.absorb diagnostics := by
  refine
    Ledger.eq_of_canonical (canonical_absorb _ _) (canonical_absorb _ _) ?_
  intro filename rule
  simp only [get?_absorb]
  split
  · rfl
  · rfl

/-- Nothing changes from a baseline to itself. -/
theorem changes_self (baseline : Baseline) :
    baseline.changes baseline = [] := by
  refine List.filterMap_eq_nil_iff.mpr ?_
  intro pair _
  simp [changeAt?]

/--
After an observation was absorbed and saved, what was absorbed is loaded, with
whatever room.  It leaves nothing of this observation to be reported, and absorbing and saving the
same observation once more succeeds and writes the same bytes.
-/
theorem saved_absorb_is_stable
    {path : Path}
    {before after : Workspace}
    {baseline : Baseline}
    {diagnostics : List Diagnostic}
    {room : Room}
    (loaded : load before path room = .ok baseline)
    (apart : baseline.SurrogatesApart)
    (apartDiagnostics :
      ∀ diagnostic ∈ diagnostics,
        diagnostic.filename.SurrogatesApart ∧
          diagnostic.rule.SurrogatesApart)
    (saved :
      (save path (baseline.absorb diagnostics)).run before =
        .ok () after) :
    ∃ next,
      (∀ other, load after path other = .ok next) ∧
        next = baseline.absorb diagnostics ∧
          next.excess diagnostics = [] ∧
            (baseline.absorb diagnostics).changes next = [] ∧
              ∃ last bytes,
                (save path (next.absorb diagnostics)).run after =
                    .ok () last ∧
                  after.readFile path = .ok bytes ∧
                    last.readFile path = .ok bytes := by
  have nonnegative := (nonnegative_of_load loaded).absorb diagnostics
  have apartAbsorbed := surrogatesApart_absorb apart apartDiagnostics
  have canonical := canonical_absorb baseline diagnostics
  have loadedNext := load_of_run_saveDespite nonnegative apartAbsorbed saved
  rw [canonical.sorted_pruneEmpty_eq] at loadedNext
  obtain ⟨text, wrote, replaced⟩ := exists_replaced_of_run_saveDespite saved
  obtain ⟨last, ranAgain⟩ :=
    replaced.exists_run_again (text.flatMap Utf8.encodePoint)
  have savedAgain :
      (save path (baseline.absorb diagnostics)).run after = .ok () last := by
    rw [save, saveDespite, wrote]
    dsimp only
    rw [EStateM.run_adaptExcept, ranAgain]
  refine
    ⟨baseline.absorb diagnostics, loadedNext, rfl, excess_absorb _ _,
      changes_self _, last, text.flatMap Utf8.encodePoint, ?_,
      replaced.readFile_eq,
      (replaced_of_run_replaceContents ranAgain).readFile_eq⟩
  rw [absorb_absorb]
  exact savedAgain

/--
A violation that is accepted beside an older one is not reported, and stays
accepted.
-/
theorem accepted_violation_is_stable :
    let older : Baseline := Ledger.empty.set "a.ts" "no-var" 3
    let stored : Text :=
      "\x7b\"a.ts\": \x7b\"no-var\": \x7b\"count\": 3\x7d\x7d\x7d"
    let before :=
      (Workspace.fresh "/w" ["t"]).withFile "b.json"
        (stored.flatMap Utf8.encodePoint)
    let seen : Diagnostic := { filename := "b.ts", rule := "eqeqeq" }
    load before "b.json" = .ok older ∧
      older.SurrogatesApart ∧
        seen.filename.SurrogatesApart ∧
          seen.rule.SurrogatesApart ∧
            older.excess [seen] ≠ [] ∧
              ∃ after last,
                (save "b.json" (older.absorb [seen])).run before =
                    .ok () after ∧
                  load after "b.json" = .ok (older.absorb [seen]) ∧
                    (older.absorb [seen]).excess [seen] = [] ∧
                      (save "b.json"
                          ((older.absorb [seen]).absorb [seen])).run after =
                        .ok () last := by
  intro older stored before seen
  have loaded : load before "b.json" = .ok older := by decide +kernel
  have apart : older.SurrogatesApart := by decide
  have apartFile : seen.filename.SurrogatesApart := by decide
  have apartRule : seen.rule.SurrogatesApart := by decide
  have apartSeen :
      ∀ diagnostic ∈ [seen],
        diagnostic.filename.SurrogatesApart ∧
          diagnostic.rule.SurrogatesApart := by
    intro diagnostic member
    rw [List.mem_singleton.mp member]
    exact ⟨apartFile, apartRule⟩
  have succeeded :
      Outcome.isOk
          ((save "b.json" (older.absorb [seen])).run before) =
        true := by
    decide +kernel
  obtain ⟨_, after, saved⟩ := Outcome.exists_eq_ok_of_isOk succeeded
  obtain ⟨_, loadedNext, rfl, nothing, _, last, _, savedAgain, _⟩ :=
    saved_absorb_is_stable loaded apart apartSeen saved
  exact
    ⟨loaded, apart, apartFile, apartRule, by decide, after, last, saved,
      loadedNext .usual, nothing, savedAgain⟩

end Tolerance.Baseline
